/-!
# Text and bytes

Text is a list of characters, so an offset or a length is a plain list index and
counts Unicode scalar values. Bytes are what crosses a stream; `Text/Utf8` relates
the two.
-/

namespace Typeahead

/-- Text as the editor counts it: one list entry for each character. -/
abbrev Text := List Char

/-- A run of bytes as it crosses a stream or lies in a file. -/
abbrev Bytes := List UInt8

/-- The byte that ends every frame of variable length. -/
def terminator : UInt8 := 0

end Typeahead

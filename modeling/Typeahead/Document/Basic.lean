import Typeahead.Text.Quoted

/-!
# Documents, positions and changes

A document is known by its name. A position is a line and a character in it, both
counted from zero, and positions are ordered line first. A change says that some
characters at an offset gave way to a text.
-/

namespace Typeahead

/-- The name of an open document. -/
structure DocumentId where
  name : Text
deriving Repr, DecidableEq

namespace DocumentId

/-- Lexicographic order of names by code point. -/
def le : Text → Text → Bool
  | [], _ => true
  | _ :: _, [] => false
  | first :: rest, other :: others =>
    first.toNat < other.toNat || (first.toNat == other.toNat && le rest others)

/-- Documents in the order of their names. -/
def sort (documents : List DocumentId) : List DocumentId :=
  documents.mergeSort fun left right => le left.name right.name

/-- The name as it stands in messages. -/
def display (document : DocumentId) : String :=
  String.ofList document.name

/-- The name within quotes, marked as that of a document. -/
def describe (document : DocumentId) : String :=
  "DocumentId(" ++ Quoted.quote document.name ++ ")"

/-- A list of documents within brackets. -/
def describeAll (documents : List DocumentId) : String :=
  "[" ++ ", ".intercalate (documents.map describe) ++ "]"

end DocumentId

/-- A place in a document, by line and by character within the line. -/
structure Position where
  line : Nat
  character : Nat
deriving Repr, DecidableEq

namespace Position

/-- Lines come first, characters within a line second. -/
def le (left right : Position) : Bool :=
  left.line < right.line || (left.line == right.line && left.character ≤ right.character)

/-- Positions in document order. -/
def sort (positions : List Position) : List Position :=
  positions.mergeSort le

end Position

/-- `removed` characters at `offset` gave way to `text`. -/
structure Change where
  offset : Nat
  removed : Nat
  text : Text
deriving Repr, DecidableEq

namespace Change

/-- A change that only adds. -/
def insert (offset : Nat) (text : Text) : Change :=
  ⟨offset, 0, text⟩

/-- A change that only takes away the characters from `start` to before `stop`; there
    are none when the range is inverted. -/
def delete (start stop : Nat) : Change :=
  ⟨start, stop - start, []⟩

/-- The text after a change. -/
def applyTo (change : Change) (text : Text) : Text :=
  text.take change.offset ++ change.text ++ text.drop (change.offset + change.removed)

end Change

end Typeahead

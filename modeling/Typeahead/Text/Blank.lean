import Typeahead.Text.Basic

/-!
# Blank text

A text is blank when it holds nothing but characters of the Unicode property
`White_Space`: the ASCII blanks from tab to carriage return and the space, the next
line control, the no-break space, the Ogham space, the general spaces of the U+2000
block with its line and paragraph separators, and the ideographic space.
-/

namespace Typeahead

/-- The property `White_Space`. -/
def isBlank (character : Char) : Bool :=
  let code := character.toNat
  (0x9 ≤ code && code ≤ 0xD) || code == 0x20 || code == 0x85 || code == 0xA0 ||
    code == 0x1680 || (0x2000 ≤ code && code ≤ 0x200A) || code == 0x2028 ||
    code == 0x2029 || code == 0x202F || code == 0x205F || code == 0x3000

/-- What the core library counts as white space is blank. -/
theorem isBlank_of_isWhitespace {character : Char} (white : character.isWhitespace = true) :
    isBlank character = true := by
  simp only [Char.isWhitespace, Bool.or_eq_true, decide_eq_true_eq] at white
  rcases white with ((rfl | rfl) | rfl) | rfl <;> decide

/-- A text without a visible character; the empty text is blank. -/
def Text.isBlank (text : Text) : Bool :=
  text.all Typeahead.isBlank

end Typeahead

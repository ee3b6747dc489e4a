import Typeahead.Text.Unprintable

/-!
# Quoted text

The form in which messages show text that may hold anything: within quotes, with a
backslash before the quote and the backslash, short escapes for the four common
controls, and the code point in braces for every other unprintable character.
-/

namespace Typeahead.Quoted

/-- The mark around a quoted text. -/
def textMark : Char := '"'

/-- The mark around a quoted single character, the apostrophe. -/
def characterMark : Char := Char.ofNat 39

/-- A character between two copies of `mark`. -/
def escape (mark character : Char) : Text :=
  if character = mark ∨ character = '\\' then ['\\', character]
  else if character = Char.ofNat 0 then ['\\', '0']
  else if character = '\t' then ['\\', 't']
  else if character = '\r' then ['\\', 'r']
  else if character = '\n' then ['\\', 'n']
  else if isUnprintable character then
    ['\\', 'u', '{'] ++ Nat.toDigits 16 character.toNat ++ ['}']
  else [character]

/-- A text within its marks. -/
def text (content : Text) : Text :=
  textMark :: content.flatMap (escape textMark) ++ [textMark]

/-- A single character within its marks. -/
def character (content : Char) : Text :=
  characterMark :: escape characterMark content ++ [characterMark]

/-- A quoted text, ready to stand in a message. -/
def quote (content : Text) : String :=
  String.ofList (text content)

/-- A quoted character, ready to stand in a message. -/
def quoteCharacter (content : Char) : String :=
  String.ofList (character content)

end Typeahead.Quoted

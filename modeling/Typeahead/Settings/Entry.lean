import Typeahead.Text.Basic

/-!
# Entries of a settings file

A settings file is a sequence of lines. A line is empty but for blanks and a comment,
or it is an entry: a key, an equals sign and a value, with blanks around each and
perhaps a comment behind. The file follows TOML 1.0. Every setting is a text or an
integer at the top level, so the reader knows these two kinds of value and refuses
tables, arrays, dotted keys and all other values as it refuses malformed lines.

Texts have four forms: within quotation marks, with escapes; within apostrophes, as
they stand; and either of these with three marks, running over several lines.
Integers are decimal with an optional sign, or hexadecimal, octal or binary, with
single underscores between digits, and fit 64 bits with a sign.
-/

namespace Typeahead

/-- The value of an entry. -/
inductive Value where
  | text (content : Text)
  | integer (number : Int)
deriving Repr, DecidableEq

/-- One entry of a settings file. -/
structure Entry where
  key : Text
  value : Value
deriving Repr, DecidableEq

namespace Entry

/-- The mark of texts that stand as they are. -/
def apostrophe : Char := Char.ofNat 39

/-- The mark of texts with escapes. -/
def quotationMark : Char := '"'

/-- A blank within a line. -/
def isSpace (character : Char) : Bool :=
  character = ' ' || character = '\t'

/-- A character that may stand for itself in a text or a comment: a tab, or anything
    that is not a control. -/
def isPlain (character : Char) : Bool :=
  character = '\t' || (0x20 ≤ character.toNat && character.toNat != 0x7F)

/-- A text without the blanks in front. -/
def skipSpaces (input : Text) : Text :=
  input.dropWhile isSpace

/-- Lines end in a line feed, with or without a carriage return before it. Every other
    carriage return stays, and no rule accepts it. -/
def unifyLineEnds : Text → Text
  | [] => []
  | '\r' :: '\n' :: rest => '\n' :: unifyLineEnds rest
  | character :: rest => character :: unifyLineEnds rest

/-- The value of a digit in a base up to sixteen. -/
def digitValue? (base : Nat) (digit : Char) : Option Nat :=
  let code := digit.toNat
  let value :=
    if 48 ≤ code ∧ code ≤ 57 then code - 48
    else if 97 ≤ code ∧ code ≤ 102 then code - 87
    else if 65 ≤ code ∧ code ≤ 70 then code - 55
    else base
  if value < base then some value else none

/-- The number that digits denote, each of them in the base. -/
def digitsValue? (base : Nat) (digits : Text) : Option Nat :=
  digits.foldl
    (fun total digit => do return (← total) * base + (← digitValue? base digit)) (some 0)

/-- The character with a code point given by hexadecimal digits; surrogates and values
    past the last code point are none. -/
def scalar? (digits : Text) : Option Char := do
  let code ← digitsValue? 16 digits
  if code < 0xD800 ∨ (0xDFFF < code ∧ code < 0x110000) then some (Char.ofNat code) else none

/-- The character that an escape stands for, and how many characters after the
    backslash it takes. -/
def escape? : Text → Option (Char × Nat)
  | 'b' :: _ => some (Char.ofNat 8, 1)
  | 't' :: _ => some ('\t', 1)
  | 'n' :: _ => some ('\n', 1)
  | 'f' :: _ => some (Char.ofNat 12, 1)
  | 'r' :: _ => some ('\r', 1)
  | '"' :: _ => some ('"', 1)
  | '\\' :: _ => some ('\\', 1)
  | 'u' :: rest => if 4 ≤ rest.length then (scalar? (rest.take 4)).map (·, 5) else none
  | 'U' :: rest => if 8 ≤ rest.length then (scalar? (rest.take 8)).map (·, 9) else none
  | _ => none

/-- Read a text on one line up to its mark, which has been opened; `read` holds its
    characters so far, last first. Only quotation marks give escapes a meaning. -/
def readLine (mark : Char) (read : Text) : Text → Option (Text × Text)
  | [] => none
  | character :: rest =>
    if character = mark then some (read.reverse, rest)
    else if character = '\\' ∧ mark = quotationMark then
      match escape? rest with
      | some (meant, used) => readLine mark (meant :: read) (rest.drop used)
      | none => none
    else if isPlain character then readLine mark (character :: read) rest
    else none
termination_by input => input.length
decreasing_by
  · exact Nat.lt_succ_of_le (List.drop_suffix _ _).length_le
  · exact Nat.lt_succ_self _

/-- Whether three marks stand at the head. -/
def opensLines (mark : Char) (input : Text) : Bool :=
  [mark, mark, mark].isPrefixOf input

/-- Behind the closing marks of a text over several lines, up to two more marks still
    belong to the text. -/
def closeLines (mark : Char) (read input : Text) : Text × Text :=
  let extra := min 2 (input.takeWhile (· = mark)).length
  (read.reverse ++ List.replicate extra mark, input.drop extra)

/-- Read a text over several lines up to its three marks. A backslash at the end of a
    line, which quotation marks give a meaning, takes away the blanks and line ends up
    to the next character. -/
def readLines (mark : Char) (read : Text) : Text → Option (Text × Text)
  | [] => none
  | character :: rest =>
    if opensLines mark (character :: rest) then some (closeLines mark read (rest.drop 2))
    else if character = '\\' ∧ mark = quotationMark then
      if (skipSpaces rest).head? = some '\n' then
        readLines mark read (rest.dropWhile fun blank => isSpace blank || blank = '\n')
      else
        match escape? rest with
        | some (meant, used) => readLines mark (meant :: read) (rest.drop used)
        | none => none
    else if isPlain character || character = '\n' then readLines mark (character :: read) rest
    else none
termination_by input => input.length
decreasing_by
  · exact Nat.lt_succ_of_le (List.dropWhile_suffix _).length_le
  · exact Nat.lt_succ_of_le (List.drop_suffix _ _).length_le
  · exact Nat.lt_succ_self _

/-- Read a text in any of its forms. A line end right behind three marks is not part of
    the text. -/
def readText (input : Text) : Option (Text × Text) :=
  match input with
  | [] => none
  | mark :: rest =>
    if mark = quotationMark ∨ mark = apostrophe then
      if opensLines mark input then
        match rest.drop 2 with
        | '\n' :: body => readLines mark [] body
        | body => readLines mark [] body
      else readLine mark [] rest
    else none

/-- The number that a run of digits with single underscores between them denotes. -/
def number? (base : Nat) (input : Text) : Option Nat :=
  let groups := input.splitOn '_'
  if groups.any List.isEmpty then none else digitsValue? base groups.flatten

/-- A decimal number; it starts with a zero only if it is zero. -/
def decimal? (input : Text) : Option Nat :=
  if input.head? = some '0' ∧ input ≠ ['0'] then none else number? 10 input

/-- The integer that a word spells. -/
def integer? (word : Text) : Option Int := do
  let number ← match word with
    | '+' :: digits => (decimal? digits).map Int.ofNat
    | '-' :: digits => (decimal? digits).map fun size => -Int.ofNat size
    | '0' :: 'x' :: digits => (number? 16 digits).map Int.ofNat
    | '0' :: 'o' :: digits => (number? 8 digits).map Int.ofNat
    | '0' :: 'b' :: digits => (number? 2 digits).map Int.ofNat
    | digits => (decimal? digits).map Int.ofNat
  if -Int.pow 2 63 ≤ number ∧ number < Int.pow 2 63 then some number else none

/-- A character of a bare key, and of the words that integers are. -/
def isBare (character : Char) : Bool :=
  character.isAlphanum || character = '_' || character = '-'

/-- Read the value of an entry. -/
def readValue (input : Text) : Option (Value × Text) :=
  match readText input with
  | some (content, rest) => some (.text content, rest)
  | none =>
    let isWord := fun character => isBare character || character = '+'
    (integer? (input.takeWhile isWord)).map fun number =>
      (.integer number, input.dropWhile isWord)

/-- Read a key: a bare word or a text on one line. -/
def readKey (input : Text) : Option (Text × Text) :=
  match input with
  | [] => none
  | mark :: rest =>
    if mark = quotationMark ∨ mark = apostrophe then readLine mark [] rest
    else if isBare mark then some (input.takeWhile isBare, input.dropWhile isBare)
    else none

/-- What follows the end of the line, if nothing but blanks and a comment precedes it. -/
def endLine? (input : Text) : Option Text :=
  let afterComment :=
    match skipSpaces input with
    | '#' :: comment => comment.dropWhile isPlain
    | rest => rest
  match afterComment with
  | [] => some []
  | '\n' :: rest => some rest
  | _ => none

/-- Read the entry at the head of a line, through the end of that line. -/
def readEntry (input : Text) : Option (Entry × Text) := do
  let (key, rest) ← readKey input
  match skipSpaces rest with
  | '=' :: rest =>
    let (value, rest) ← readValue (skipSpaces rest)
    return (⟨key, value⟩, ← endLine? rest)
  | _ => none

/-- Read lines until nothing is left. Every line takes at least one character, so a
    count of one more than there are characters is never used up. -/
def readAll : Nat → Text → Option (List Entry)
  | 0, _ => none
  | count + 1, input =>
    match skipSpaces input with
    | [] => some []
    | line =>
      match endLine? line with
      | some rest => readAll count rest
      | none => do
        let (entry, rest) ← readEntry line
        return entry :: (← readAll count rest)

/-- The entries of a settings file, or nothing if it is malformed. A byte order mark in
    front is not part of the file. -/
def ofText? (file : Text) : Option (List Entry) :=
  let input := unifyLineEnds (if file.head? = some (Char.ofNat 0xFEFF) then file.drop 1 else file)
  readAll (input.length + 1) input

end Entry

end Typeahead

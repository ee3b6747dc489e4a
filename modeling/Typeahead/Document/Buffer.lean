import Typeahead.Fault

/-!
# Text buffers

A buffer is a text with one cursor. Edits name a range of offsets, which is clamped to
the text, and the cursor follows them: text put in at or before it pushes it on. Each
edit is reported as the change it made.

A typed character leaves an anchor at its own offset. While the anchor stands, edits on
behalf of the engine go by it and not by the cursor, so that they land on the typed
character; any other edit, a move of the cursor, or the end of a reply takes it away.
-/

namespace Typeahead

/-- A text with a cursor. -/
structure Buffer where
  text : Text
  cursor : Nat
  /-- The offset of the character just typed, while its reply is pending. -/
  anchor : Option Nat
deriving Repr, DecidableEq

namespace Buffer

/-- A buffer without text. -/
def empty : Buffer :=
  ⟨[], 0, none⟩

/-- A buffer with the cursor behind its text. -/
def ofText (text : Text) : Buffer :=
  ⟨text, text.length, none⟩

/-- The number of characters. -/
def length (buffer : Buffer) : Nat :=
  buffer.text.length

/-- Where edits on behalf of the engine go by. -/
def editCursor (buffer : Buffer) : Nat :=
  buffer.anchor.getD buffer.cursor

/-- Where a cursor stands after the characters from `start` to before `stop` have given
    way to `size` others: behind them if it was at or past the range, right behind the
    new text if it was inside, and where it was if it was before the range. -/
def followCursor (cursor start stop size : Nat) : Nat :=
  if stop ≤ cursor then cursor - (stop - start) + size
  else if start < cursor then start + size
  else cursor

/-- Put `inserted` for a range, clamped to the text. Typed text leaves an anchor. -/
def splice (buffer : Buffer) (start stop : Nat) (inserted : Text) (typed : Bool) :
    Except Fault (Buffer × Change) :=
  if stop < start then .error (.invertedRange start stop)
  else
    let first := min start buffer.length
    let last := min stop buffer.length
    let change : Change := ⟨first, last - first, inserted⟩
    .ok
      (⟨change.applyTo buffer.text, followCursor buffer.cursor first last inserted.length,
          if typed then some first else none⟩,
        change)

/-- What can be done to a buffer. -/
inductive Operation where
  /-- The user types a character at the cursor. -/
  | type (character : Char)
  /-- The user deletes the character before the cursor, if there is one. -/
  | backspace
  /-- The cursor moves, at most behind the last character. -/
  | setCursor (offset : Nat)
  /-- A range gives way to a text. -/
  | replace (start stop : Nat) (inserted : Text)
  /-- A text goes in at an offset. -/
  | insert (offset : Nat) (inserted : Text)
  /-- A range goes away. -/
  | delete (start stop : Nat)
  /-- A reply has been dealt with, so the anchor goes away. -/
  | replyApplied
deriving Repr, DecidableEq

/-- The buffer after an operation and the change to report, if the text was edited. An
    operation that fails leaves everything as it was. -/
def perform (buffer : Buffer) : Operation → Except Fault (Buffer × Option Change)
  | .type character => edited (buffer.splice buffer.cursor buffer.cursor [character] true)
  | .backspace =>
    if buffer.cursor = 0 then .ok (buffer, none)
    else edited (buffer.splice (buffer.cursor - 1) buffer.cursor [] false)
  | .setCursor offset => .ok (⟨buffer.text, min offset buffer.length, none⟩, none)
  | .replace start stop inserted => edited (buffer.splice start stop inserted false)
  | .insert offset inserted => edited (buffer.splice offset offset inserted false)
  | .delete start stop => edited (buffer.splice start stop [] false)
  | .replyApplied => .ok ({ buffer with anchor := none }, none)
where
  /-- An edit reports its change. -/
  edited (result : Except Fault (Buffer × Change)) : Except Fault (Buffer × Option Change) :=
    result.map fun (buffer, change) => (buffer, some change)

/-- Whether a character goes on in the same line. -/
def continuesLine (character : Char) : Bool :=
  character != '\n'

/-- The offset in `text` of a character in a line, both counted from its head. A
    character past the end of the line is its end, a line past the last one the end of
    the text. -/
def offsetFrom (character : Nat) : Nat → Text → Nat
  | 0, text => min character (text.takeWhile continuesLine).length
  | line + 1, text =>
    match text.dropWhile continuesLine with
    | [] => text.length
    | _ :: rest => (text.takeWhile continuesLine).length + 1 + offsetFrom character line rest

/-- The offset of a position. -/
def offsetAt (buffer : Buffer) (position : Position) : Nat :=
  offsetFrom position.character position.line buffer.text

/-- The position of an offset, clamped to the text. -/
def positionAt (buffer : Buffer) (offset : Nat) : Position :=
  let before := buffer.text.take offset
  ⟨before.count '\n', (before.reverse.takeWhile continuesLine).length⟩

/-- A buffer on one line, as reports show it. -/
def describe (buffer : Buffer) : String :=
  "TextBuffer \x7b text: " ++ Quoted.quote buffer.text ++ ", cursor: " ++
    toString buffer.cursor ++ ", .. \x7d"

end Buffer

end Typeahead

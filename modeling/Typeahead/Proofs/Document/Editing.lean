import Typeahead.Document.Buffer

/-!
# What an edit does to a buffer

An operation whose range is not inverted takes effect as one change, the range clamped to
the text. The lemmas of this module say what such a change does to the text on both sides of
the cursor: a text cut at the ends of the change is put together again around the new
characters (`put_between`), a change that ends at or before the cursor leaves what stands
behind the cursor alone (`drop_put`), and a character before the cursor stays before it
(`carry_lt_cursor`), wherever the change carries it.
-/

namespace Typeahead

/-- Where a change carries the character at an offset; nowhere if it takes that character away. -/
def Change.carry (change : Change) (offset : Nat) : Option Nat :=
  if offset < change.offset then some offset
  else if offset < change.offset + change.removed then none
  else some (offset - change.removed + change.text.length)

/-- The character that a change carries elsewhere stands there afterwards. -/
theorem Change.applyTo_carry {change : Change} {text : Text} {offset place : Nat}
    (inside : change.offset + change.removed ≤ text.length)
    (carried : change.carry offset = some place) :
    (change.applyTo text)[place]? = text[offset]? := by
  have front : (text.take change.offset).length = change.offset := by
    rw [List.length_take]
    omega
  unfold Change.carry at carried
  split at carried
  · next before =>
    cases carried
    rw [Change.applyTo, List.append_assoc, List.getElem?_append_left (by omega),
      List.getElem?_take_of_lt before]
  · split at carried
    · cases carried
    · cases carried
      rw [Change.applyTo, List.getElem?_append_right (by rw [List.length_append]; omega),
        List.getElem?_drop, List.length_append, front]
      congr 1
      omega

namespace Buffer

/-- The change that putting a text for a range amounts to, clamped to the buffer. -/
def clamp (buffer : Buffer) (start stop : Nat) (inserted : Text) : Change :=
  ⟨min start buffer.length, min stop buffer.length - min start buffer.length, inserted⟩

/-- The buffer after a change, with the cursor following it. -/
def put (buffer : Buffer) (change : Change) (anchor : Option Nat) : Buffer :=
  ⟨change.applyTo buffer.text,
    followCursor buffer.cursor change.offset (change.offset + change.removed) change.text.length,
    anchor⟩

/-- A range that is not inverted gives way to a text by one change. -/
theorem splice_upright (buffer : Buffer) {start stop : Nat} (upright : start ≤ stop)
    (inserted : Text) (typed : Bool) :
    buffer.splice start stop inserted typed =
      .ok (buffer.put (buffer.clamp start stop inserted)
          (if typed then some (min start buffer.length) else none),
        buffer.clamp start stop inserted) := by
  have last : min start buffer.length + (min stop buffer.length - min start buffer.length) =
      min stop buffer.length := by omega
  simp only [splice, Nat.not_lt.mpr upright, if_false, put, clamp, last]

/-- An operation that names a range, if it names one, does not invert it. -/
def Operation.Upright : Operation → Prop
  | .replace start stop _ => start ≤ stop
  | .delete start stop => start ≤ stop
  | _ => True

/-- The buffer after an operation. One that fails leaves it as it was. -/
def after (buffer : Buffer) (operation : Operation) : Buffer :=
  match buffer.perform operation with
  | .ok (next, _) => next
  | .error _ => buffer

/-- The change that an operation makes, if it makes one. -/
def change? (buffer : Buffer) (operation : Operation) : Option Change :=
  match buffer.perform operation with
  | .ok (_, change) => change
  | .error _ => none

/-- The buffer after several operations. -/
def afterAll (buffer : Buffer) (operations : List Operation) : Buffer :=
  operations.foldl after buffer

/-- The changes that several operations make, in order. -/
def changes : Buffer → List Operation → List Change
  | _, [] => []
  | buffer, operation :: rest =>
    (buffer.change? operation).toList ++ changes (buffer.after operation) rest

/-- Only an inverted range makes an operation fail. -/
theorem perform_upright (buffer : Buffer) {operation : Operation} (upright : operation.Upright) :
    buffer.perform operation = .ok (buffer.after operation, buffer.change? operation) := by
  cases outcome : buffer.perform operation with
  | ok result => simp [after, change?, outcome]
  | error fault =>
    cases operation with
    | type character => simp [perform, perform.edited, splice_upright, Except.map] at outcome
    | backspace =>
      by_cases top : buffer.cursor = 0
      · simp [perform, top] at outcome
      · simp [perform, top, perform.edited, splice_upright, Except.map] at outcome
    | setCursor offset => cases outcome
    | replace start stop inserted =>
      simp [perform, perform.edited, splice_upright buffer upright, Except.map] at outcome
    | insert offset inserted =>
      simp [perform, perform.edited, splice_upright, Except.map] at outcome
    | delete start stop =>
      simp [perform, perform.edited, splice_upright buffer upright, Except.map] at outcome
    | replyApplied => cases outcome

/-- Putting a text for a range is one change, and it takes the anchor away. -/
theorem perform_replace (buffer : Buffer) {start stop : Nat} (upright : start ≤ stop)
    (inserted : Text) :
    buffer.perform (.replace start stop inserted) =
      .ok (buffer.put (buffer.clamp start stop inserted) none,
        some (buffer.clamp start stop inserted)) := by
  simp [perform, perform.edited, splice_upright buffer upright, Except.map]

/-- Typing is one change at the cursor, and it leaves an anchor there. -/
theorem perform_type (buffer : Buffer) (character : Char) :
    buffer.perform (.type character) =
      .ok (buffer.put (buffer.clamp buffer.cursor buffer.cursor [character])
          (some (min buffer.cursor buffer.length)),
        some (buffer.clamp buffer.cursor buffer.cursor [character])) := by
  simp [perform, perform.edited, splice_upright, Except.map]

section Put

variable {buffer : Buffer} {change : Change}

/-- The new characters stand where the old ones stood, and the cursor is where it was as seen from
what stands between them and it. -/
theorem put_between {front gone between rear inserted : Text} (anchor : Option Nat)
    (text : buffer.text = front ++ gone ++ between ++ rear)
    (cursor : buffer.cursor = (front ++ gone ++ between).length) :
    buffer.put ⟨front.length, gone.length, inserted⟩ anchor =
      ⟨front ++ inserted ++ between ++ rear, (front ++ inserted ++ between).length, anchor⟩ := by
  have taken : (front ++ gone ++ between ++ rear).take front.length = front := by
    simp
  have dropped : (front ++ gone ++ between ++ rear).drop (front.length + gone.length) =
      between ++ rear := by
    rw [← List.length_append, List.append_assoc (front ++ gone), List.drop_left]
  have followed : followCursor buffer.cursor front.length (front.length + gone.length)
      inserted.length = (front ++ inserted ++ between).length := by
    simp only [followCursor, cursor, List.length_append]
    rw [if_pos (by omega)]
    omega
  simp only [put, Change.applyTo, text, taken, dropped, followed, Buffer.mk.injEq, and_true]
  simp only [List.append_assoc]

/-- Typing puts the character in at the cursor and leaves an anchor at it. -/
theorem after_type {left right : Text} (text : buffer.text = left ++ right)
    (cursor : buffer.cursor = left.length) (character : Char) :
    buffer.after (.type character) =
      ⟨left ++ [character] ++ right, (left ++ [character]).length, some left.length⟩ := by
  have within : left.length ≤ buffer.length := by
    rw [length, text, List.length_append]
    exact Nat.le_add_right _ _
  have clamped : buffer.clamp left.length left.length [character] =
      ⟨left.length, ([] : Text).length, [character]⟩ := by
    simp [clamp, within]
  have typed : buffer.put ⟨left.length, ([] : Text).length, [character]⟩ (some left.length) =
      ⟨left ++ [character] ++ [] ++ right, (left ++ [character] ++ []).length,
        some left.length⟩ :=
    put_between _ (by simpa using text) (by simpa using cursor)
  simp only [after, perform_type, cursor, clamped, Nat.min_eq_left within]
  simpa using typed

/-- A range right before what stands between it and the cursor gives way to a text. -/
theorem after_replace {front gone between rear : Text} {start stop : Nat} (inserted : Text)
    (text : buffer.text = front ++ gone ++ between ++ rear)
    (cursor : buffer.cursor = (front ++ gone ++ between).length) (first : start = front.length)
    (last : stop = (front ++ gone).length) :
    buffer.after (.replace start stop inserted) =
      ⟨front ++ inserted ++ between ++ rear, (front ++ inserted ++ between).length, none⟩ := by
  subst first last
  have clamped : buffer.clamp front.length (front ++ gone).length inserted =
      ⟨front.length, gone.length, inserted⟩ := by
    simp only [clamp, length, text, List.length_append, Change.mk.injEq, and_true]
    omega
  have upright : front.length ≤ (front ++ gone).length := by
    rw [List.length_append]
    exact Nat.le_add_right _ _
  simp only [after, perform_replace buffer upright, clamped]
  exact put_between none text cursor

/-- The cursor does not leave the text. -/
theorem cursor_put_le (inside : change.offset + change.removed ≤ buffer.length)
    (within : buffer.cursor ≤ buffer.length) (anchor : Option Nat) :
    (buffer.put change anchor).cursor ≤ (buffer.put change anchor).length := by
  simp only [length] at inside within
  simp only [put, length, Change.applyTo, followCursor, List.length_append, List.length_take,
    List.length_drop]
  split
  · omega
  · split <;> omega

/-- A change that ends at or before the cursor takes the cursor along. -/
theorem cursor_put (ends : change.offset + change.removed ≤ buffer.cursor) (anchor : Option Nat) :
    (buffer.put change anchor).cursor = buffer.cursor - change.removed + change.text.length := by
  simp only [put, followCursor, if_pos ends]
  omega

/-- A change that ends at or before the cursor leaves alone what stands behind it. -/
theorem drop_put (ends : change.offset + change.removed ≤ buffer.cursor)
    (within : buffer.cursor ≤ buffer.length) (anchor : Option Nat) :
    (buffer.put change anchor).text.drop (buffer.put change anchor).cursor =
      buffer.text.drop buffer.cursor := by
  rw [cursor_put ends]
  simp only [length] at within
  have front : (buffer.text.take change.offset ++ change.text).length =
      change.offset + change.text.length := by
    rw [List.length_append, List.length_take]
    omega
  simp only [put, Change.applyTo]
  rw [List.drop_append, List.drop_eq_nil_of_le (by omega), List.nil_append, List.drop_drop, front]
  congr 1
  omega

/-- A change that begins at or before the cursor and reaches past it takes away the first characters
behind it. If it begins right at the cursor, its text comes to stand behind the cursor instead. -/
theorem drop_put_past (begins : change.offset ≤ buffer.cursor)
    (past : buffer.cursor < change.offset + change.removed)
    (within : buffer.cursor ≤ buffer.length) (anchor : Option Nat) :
    (buffer.put change anchor).text.drop (buffer.put change anchor).cursor =
      (if change.offset = buffer.cursor then change.text else []) ++
        buffer.text.drop (change.offset + change.removed) := by
  simp only [length] at within
  have front : (buffer.text.take change.offset).length = change.offset := by
    rw [List.length_take]
    omega
  simp only [put, Change.applyTo, followCursor, if_neg (Nat.not_le.mpr past)]
  by_cases atCursor : change.offset = buffer.cursor
  · rw [if_neg (by omega), if_pos atCursor, ← atCursor, List.append_assoc, List.drop_left' front]
  · have size : (buffer.text.take change.offset ++ change.text).length =
        change.offset + change.text.length := by
      rw [List.length_append, front]
    rw [if_pos (by omega), if_neg atCursor, List.drop_left' size, List.nil_append]

/-- If the text behind the cursor is the same after such a change, the change begins at the cursor
and puts there the very characters that it takes away. -/
theorem eq_take_of_drop_put (begins : change.offset ≤ buffer.cursor)
    (past : buffer.cursor < change.offset + change.removed)
    (inside : change.offset + change.removed ≤ buffer.length) (anchor : Option Nat)
    (kept : (buffer.put change anchor).text.drop (buffer.put change anchor).cursor =
      buffer.text.drop buffer.cursor) :
    change.offset = buffer.cursor ∧
      change.text = (buffer.text.drop buffer.cursor).take change.removed := by
  rw [drop_put_past begins past (Nat.le_trans (Nat.le_of_lt past) inside) anchor] at kept
  simp only [length] at inside
  by_cases atCursor : change.offset = buffer.cursor
  · rw [if_pos atCursor, atCursor, ← List.drop_drop] at kept
    have parts := List.take_append_drop change.removed (buffer.text.drop buffer.cursor)
    exact ⟨atCursor, List.append_cancel_right (kept.trans parts.symm)⟩
  · have sizes := congrArg List.length kept
    rw [if_neg atCursor, List.nil_append, List.length_drop, List.length_drop] at sizes
    omega

/-- A character before the cursor is carried to a place before the cursor. -/
theorem carry_lt_cursor {offset place : Nat} (before : offset < buffer.cursor)
    (carried : change.carry offset = some place) (anchor : Option Nat) :
    place < (buffer.put change anchor).cursor := by
  simp only [put, followCursor]
  unfold Change.carry at carried
  split at carried
  · cases carried
    split
    · omega
    · split <;> omega
  · split at carried
    · cases carried
    · cases carried
      split
      · omega
      · omega

end Put

end Buffer

end Typeahead

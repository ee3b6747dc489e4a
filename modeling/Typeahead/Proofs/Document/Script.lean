import Typeahead.Proofs.Document.Editing

/-!
# Changes as an edit script

Whoever hears of a buffer hears of its changes only. Read as a script, these say all that
happened to the text: applied to the text at the beginning, one after another, they give the
text as it is (`applyAll_changes`), and each of them lies within the text that it applies to
(`changes_fit`).

What one operation reports follows from the edit that it asks for, `Operation.edit?`. An
operation that asks for none reports none. An inverted range is refused, and nothing happens.
Any other range is clamped to the text and gives way to the new characters in one change.
-/

namespace Typeahead

namespace Change

/-- The text after several changes, one after another. -/
def applyAll (text : Text) (changes : List Change) : Text :=
  changes.foldl (fun text change => change.applyTo text) text

/-- Each change takes away only characters that are there when it is its turn. -/
def Fits : Text → List Change → Prop
  | _, [] => True
  | text, change :: rest =>
    change.offset + change.removed ≤ text.length ∧ Fits (change.applyTo text) rest

/-- A script fits when its first part does and the rest fits the text after that. -/
theorem Fits.append {text : Text} {first later : List Change} (fits : Fits text first)
    (more : Fits (applyAll text first) later) : Fits text (first ++ later) := by
  induction first generalizing text with
  | nil => exact more
  | cons change rest inductionHypothesis =>
    obtain ⟨inside, behind⟩ := fits
    exact ⟨inside, inductionHypothesis behind more⟩

end Change

namespace Buffer

/-- A text that is to stand in the place of a range. -/
structure Edit where
  start : Nat
  stop : Nat
  inserted : Text
deriving Repr, DecidableEq

/-- The edit that an operation asks for, if it asks for one, before anything is clamped. -/
def Operation.edit? (buffer : Buffer) : Operation → Option Edit
  | .type character => some ⟨buffer.cursor, buffer.cursor, [character]⟩
  | .backspace => if buffer.cursor = 0 then none else some ⟨buffer.cursor - 1, buffer.cursor, []⟩
  | .setCursor _ => none
  | .replace start stop inserted => some ⟨start, stop, inserted⟩
  | .insert offset inserted => some ⟨offset, offset, inserted⟩
  | .delete start stop => some ⟨start, stop, []⟩
  | .replyApplied => none

/-- What an operation may come to: the buffer after it and the changes that it reports. -/
inductive Outcome (buffer : Buffer) (operation : Operation) : Buffer → List Change → Prop where
  /-- Nothing is asked of the text, and it stays. -/
  | idle {next : Buffer} (asked : operation.edit? buffer = none)
      (performed : buffer.perform operation = .ok (next, none)) (kept : next.text = buffer.text) :
      Outcome buffer operation next []
  /-- An inverted range is refused. -/
  | refused {edit : Edit} (asked : operation.edit? buffer = some edit)
      (inverted : edit.stop < edit.start)
      (performed : buffer.perform operation = .error (.invertedRange edit.start edit.stop)) :
      Outcome buffer operation buffer []
  /-- The range, as far as it lies within the text, gives way to the new characters. -/
  | edited {edit : Edit} {next : Buffer} {change : Change}
      (asked : operation.edit? buffer = some edit) (upright : edit.start ≤ edit.stop)
      (performed : buffer.perform operation = .ok (next, some change))
      (first : change.offset = min edit.start buffer.length)
      (last : change.offset + change.removed = min edit.stop buffer.length)
      (put : change.text = edit.inserted) (followed : next.text = change.applyTo buffer.text) :
      Outcome buffer operation next [change]

variable {buffer next : Buffer} {operation : Operation}

/-- A change clamped to a buffer begins and ends where its range does, as far as that lies within
the text. -/
theorem clamp_ends (buffer : Buffer) {start stop : Nat} (upright : start ≤ stop)
    (inserted : Text) :
    (buffer.clamp start stop inserted).offset + (buffer.clamp start stop inserted).removed =
      min stop buffer.length := by
  simp only [clamp]
  omega

/-- Whether an operation is the typing of a character. -/
def Operation.types : Operation → Bool
  | .type _ => true
  | _ => false

/-- An operation that asks for an edit is that splice of the buffer. -/
theorem perform_of_edit {edit : Edit} (asked : operation.edit? buffer = some edit) :
    buffer.perform operation =
      perform.edited (buffer.splice edit.start edit.stop edit.inserted operation.types) := by
  cases operation with
  | type character =>
    obtain rfl := Option.some.inj asked
    rfl
  | backspace =>
    by_cases top : buffer.cursor = 0
    · simp [Operation.edit?, top] at asked
    · simp only [Operation.edit?, top, if_false, Option.some.injEq] at asked
      subst asked
      simp [perform, top, Operation.types]
  | setCursor | replyApplied => cases asked
  | replace | insert | delete =>
    obtain rfl := Option.some.inj asked
    rfl

/-- An inverted range is refused. -/
theorem perform_of_inverted {edit : Edit} (asked : operation.edit? buffer = some edit)
    (inverted : edit.stop < edit.start) :
    buffer.perform operation = .error (.invertedRange edit.start edit.stop) := by
  rw [perform_of_edit asked, splice, if_pos inverted]
  rfl

/-- Any other range is clamped to the text and gives way in one change. Typing leaves an anchor at
the beginning of the range, and every other edit takes the anchor away. -/
theorem perform_of_upright {edit : Edit} (asked : operation.edit? buffer = some edit)
    (upright : edit.start ≤ edit.stop) :
    buffer.perform operation =
      .ok (buffer.put (buffer.clamp edit.start edit.stop edit.inserted)
          (if operation.types then some (min edit.start buffer.length) else none),
        some (buffer.clamp edit.start edit.stop edit.inserted)) := by
  rw [perform_of_edit asked, splice_upright buffer upright]
  rfl

/-- An operation that asks for no edit succeeds, reports nothing and leaves the text alone. -/
theorem perform_of_no_edit (asked : operation.edit? buffer = none) :
    ∃ next, buffer.perform operation = .ok (next, none) ∧ next.text = buffer.text := by
  cases operation with
  | type | replace | insert | delete => cases asked
  | setCursor | replyApplied => exact ⟨_, rfl, rfl⟩
  | backspace =>
    by_cases top : buffer.cursor = 0
    · exact ⟨buffer, by simp [perform, top], rfl⟩
    · simp [Operation.edit?, top] at asked

/-- Every operation comes to one of these. -/
theorem after_outcome (buffer : Buffer) (operation : Operation) :
    buffer.Outcome operation (buffer.after operation) (buffer.change? operation).toList := by
  cases asked : operation.edit? buffer with
  | none =>
    obtain ⟨next, performed, kept⟩ := perform_of_no_edit asked
    simp only [after, change?, performed, Option.toList_none]
    exact .idle asked performed kept
  | some edit =>
    by_cases inverted : edit.stop < edit.start
    · have refused := perform_of_inverted asked inverted
      simp only [after, change?, refused, Option.toList_none]
      exact .refused asked inverted refused
    · have upright : edit.start ≤ edit.stop := Nat.le_of_not_lt inverted
      have performed := perform_of_upright asked upright
      simp only [after, change?, performed, Option.toList_some]
      exact .edited asked upright performed rfl (clamp_ends buffer upright edit.inserted) rfl rfl

/-- What an operation reports says what it did to the text. -/
theorem Outcome.applyAll {changes : List Change} (outcome : buffer.Outcome operation next changes) :
    Change.applyAll buffer.text changes = next.text := by
  cases outcome with
  | idle asked performed kept => exact kept.symm
  | refused => rfl
  | edited asked upright performed first last put followed => exact followed.symm

/-- What an operation reports lies within the text. -/
theorem Outcome.fits {changes : List Change} (outcome : buffer.Outcome operation next changes) :
    Change.Fits buffer.text changes := by
  cases outcome with
  | idle | refused => trivial
  | edited asked upright performed first last =>
    refine ⟨?_, trivial⟩
    rw [last]
    exact Nat.min_le_right _ _

/-- The changes reported give the text, when they are applied to the text at the beginning. -/
theorem applyAll_changes (buffer : Buffer) (operations : List Operation) :
    Change.applyAll buffer.text (buffer.changes operations) =
      (buffer.afterAll operations).text := by
  induction operations generalizing buffer with
  | nil => rfl
  | cons operation rest inductionHypothesis =>
    calc Change.applyAll buffer.text (buffer.changes (operation :: rest))
        = Change.applyAll (Change.applyAll buffer.text (buffer.change? operation).toList)
            ((buffer.after operation).changes rest) := List.foldl_append
      _ = Change.applyAll (buffer.after operation).text
            ((buffer.after operation).changes rest) := by
          rw [(after_outcome buffer operation).applyAll]
      _ = (buffer.afterAll (operation :: rest)).text := inductionHypothesis _

/-- Each change reported lies within the text that the changes before it make. -/
theorem changes_fit (buffer : Buffer) (operations : List Operation) :
    Change.Fits buffer.text (buffer.changes operations) := by
  induction operations generalizing buffer with
  | nil => trivial
  | cons operation rest inductionHypothesis =>
    have outcome := after_outcome buffer operation
    refine outcome.fits.append ?_
    rw [outcome.applyAll]
    exact inductionHypothesis (buffer.after operation)

/-- One more operation adds to the script what it reports. -/
theorem changes_concat (buffer : Buffer) (operations : List Operation) (operation : Operation) :
    buffer.changes (operations ++ [operation]) =
      buffer.changes operations ++ ((buffer.afterAll operations).change? operation).toList := by
  induction operations generalizing buffer with
  | nil => exact List.append_nil _
  | cons earlier rest inductionHypothesis =>
    simp only [List.cons_append, changes, inductionHypothesis, List.append_assoc]
    rfl

/-- The changes that a buffer reports are a faithful script of its text, from any buffer and after
any operations: they lead from the text at the beginning to the text as it is, each of them within
bounds when it is its turn. The next operation adds its outcome to the script. It reports one change
if it edits, and none if it asks for no edit or is refused, in which case the text stays. -/
theorem changes_retell_text (buffer : Buffer) (operations : List Operation)
    (operation : Operation) :
    let reached := buffer.afterAll operations
    let reported := (reached.change? operation).toList
    Change.applyAll buffer.text (buffer.changes operations) = reached.text ∧
      Change.Fits buffer.text (buffer.changes operations) ∧
      buffer.changes (operations ++ [operation]) = buffer.changes operations ++ reported ∧
      reached.Outcome operation (reached.after operation) reported := by
  intro reached reported
  refine ⟨applyAll_changes buffer operations, changes_fit buffer operations, ?_, ?_⟩
  · exact changes_concat buffer operations operation
  · exact after_outcome reached operation

/-- A deletion past both ends of the text reports what was there to delete. -/
example : (ofText ['a', 'b']).changes [.backspace, .delete 0 9, .delete 3 2, .type 'c'] =
    [⟨1, 1, []⟩, ⟨0, 1, []⟩, ⟨0, 0, ['c']⟩] := by decide

end Buffer

end Typeahead

import Mathlib.Data.List.Induction
import Typeahead.Proofs.Document.Script

/-!
# The cursor and the anchor

Every edit keeps the cursor in place, as seen from the side of the range on which it stands
(`put_keepsPlace`): what stands behind the cursor stays there when the range ends at or before it,
what stands in front of it when the range begins at or behind it, and a cursor within the range
comes to stand right behind the new text. So a cursor in the text stays in the text.

An anchor goes by the operations since a character was typed. Those that let it stand leave the
whole buffer as it was (`LetsStand.after_eq`), so it still marks the character in front of the
cursor. Every other operation takes it away or is the typing of the next character
(`turn_after`).
-/

namespace Typeahead.Buffer

/-- Whether an operation takes an anchor away without any edit. -/
def Operation.dropsAnchor : Operation → Bool
  | .setCursor _ => true
  | .replyApplied => true
  | _ => false

/-- An operation lets an anchor stand: it is no successful edit, it does not set the cursor and it
does not end a reply. -/
def LetsStand (buffer : Buffer) (operation : Operation) : Prop :=
  buffer.change? operation = none ∧ operation.dropsAnchor = false

/-- Each of these operations lets an anchor stand when it is its turn. -/
def AllLetStand : Buffer → List Operation → Prop
  | _, [] => True
  | buffer, operation :: rest =>
    buffer.LetsStand operation ∧ (buffer.after operation).AllLetStand rest

/-- This character was typed last, and the operations after that let its anchor stand. -/
def Pending (buffer : Buffer) (operations : List Operation) (character : Char) : Prop :=
  ∃ earlier later, operations = earlier ++ .type character :: later ∧
    ((buffer.afterAll earlier).after (.type character)).AllLetStand later

/-- The cursor keeps its place while the characters from `first` to before `last` give way to a
text. Nothing is taken away from a smaller number, so the cursor is where the integers put it. -/
structure KeepsPlace (buffer : Buffer) (first last : Nat) (inserted : Text) (next : Buffer) :
    Prop where
  upright : first ≤ last
  inside : last ≤ buffer.length
  put : next.text = buffer.text.take first ++ inserted ++ buffer.text.drop last
  /-- A cursor at or behind the end of the range. -/
  behind : last ≤ buffer.cursor →
    (next.cursor : Int) = buffer.cursor - (last - first) + inserted.length ∧
      next.text.drop next.cursor = buffer.text.drop buffer.cursor
  /-- A cursor at or in front of the beginning of the range. -/
  ahead : buffer.cursor ≤ first → buffer.cursor < last →
    next.cursor = buffer.cursor ∧
      next.text.take next.cursor = buffer.text.take buffer.cursor
  /-- A cursor between two characters that go away. -/
  within : first < buffer.cursor → buffer.cursor < last →
    next.cursor = first + inserted.length ∧
      next.text.take next.cursor = buffer.text.take first ++ inserted

/-- What an operation can do to a buffer. -/
inductive Turn (buffer : Buffer) (operation : Operation) : Buffer → Prop where
  /-- Nothing. -/
  | still (stands : buffer.LetsStand operation) : Turn buffer operation buffer
  /-- The anchor goes away and the cursor may move, but not out of the text. -/
  | released {cursor : Nat} (drops : operation.dropsAnchor = true)
      (within : buffer.cursor ≤ buffer.length → cursor ≤ buffer.length) :
      Turn buffer operation ⟨buffer.text, cursor, none⟩
  /-- A range of the text gives way to another text. -/
  | edited {edit : Edit} (asked : operation.edit? buffer = some edit)
      (upright : edit.start ≤ edit.stop) :
      Turn buffer operation (buffer.put (buffer.clamp edit.start edit.stop edit.inserted)
        (if operation.types then some (min edit.start buffer.length) else none))

variable {buffer : Buffer} {operation : Operation}

/-- Every operation does one of these. -/
theorem turn_after (buffer : Buffer) (operation : Operation) :
    buffer.Turn operation (buffer.after operation) := by
  cases asked : operation.edit? buffer with
  | none =>
    cases operation with
    | type | replace | insert | delete => cases asked
    | setCursor offset => exact .released rfl fun _ => Nat.min_le_right _ _
    | replyApplied => exact .released rfl id
    | backspace =>
      by_cases top : buffer.cursor = 0
      · have performed : buffer.perform .backspace = .ok (buffer, none) := by simp [perform, top]
        have kept : buffer.after .backspace = buffer := by simp only [after, performed]
        rw [kept]
        exact .still ⟨by simp only [change?, performed], rfl⟩
      · simp [Operation.edit?, top] at asked
  | some edit =>
    by_cases inverted : edit.stop < edit.start
    · have refused := perform_of_inverted asked inverted
      have keeps : operation.dropsAnchor = false := by
        cases operation with
        | setCursor | replyApplied => cases asked
        | _ => rfl
      have kept : buffer.after operation = buffer := by simp only [after, refused]
      rw [kept]
      exact .still ⟨by simp only [change?, refused], keeps⟩
    · have upright : edit.start ≤ edit.stop := Nat.le_of_not_lt inverted
      simp only [after, perform_of_upright asked upright]
      exact .edited asked upright

/-- An operation that lets an anchor stand changes nothing at all. -/
theorem LetsStand.after_eq (stands : buffer.LetsStand operation) :
    buffer.after operation = buffer := by
  obtain ⟨unedited, keeps⟩ := stands
  have turn := turn_after buffer operation
  generalize buffer.after operation = next at turn ⊢
  cases turn with
  | still => rfl
  | released drops => exact absurd (keeps.symm.trans drops) Bool.false_ne_true
  | edited asked upright => simp [change?, perform_of_upright asked upright] at unedited

/-- Nor do several of them. -/
theorem AllLetStand.afterAll_eq {operations : List Operation}
    (stand : buffer.AllLetStand operations) : buffer.afterAll operations = buffer := by
  induction operations with
  | nil => rfl
  | cons operation rest inductionHypothesis =>
    obtain ⟨first, others⟩ := stand
    rw [first.after_eq] at others
    calc buffer.afterAll (operation :: rest)
        = (buffer.after operation).afterAll rest := rfl
      _ = buffer.afterAll rest := by rw [first.after_eq]
      _ = buffer := inductionHypothesis others

/-- One more operation that lets an anchor stand. -/
theorem AllLetStand.concat {operations : List Operation} (stand : buffer.AllLetStand operations)
    (further : (buffer.afterAll operations).LetsStand operation) :
    buffer.AllLetStand (operations ++ [operation]) := by
  induction operations generalizing buffer with
  | nil => exact ⟨further, trivial⟩
  | cons earlier rest inductionHypothesis =>
    obtain ⟨first, others⟩ := stand
    exact ⟨first, inductionHypothesis others further⟩

/-- No operation moves the cursor out of the text. -/
theorem after_cursor_le (within : buffer.cursor ≤ buffer.length) (operation : Operation) :
    (buffer.after operation).cursor ≤ (buffer.after operation).length := by
  have turn := turn_after buffer operation
  generalize buffer.after operation = next at turn ⊢
  cases turn with
  | still => exact within
  | released drops stays => exact stays within
  | edited asked upright =>
    refine cursor_put_le ?_ within _
    rw [clamp_ends buffer upright]
    exact Nat.min_le_right _ _

/-- Nor do several of them. -/
theorem afterAll_cursor_le (operations : List Operation) (within : buffer.cursor ≤ buffer.length) :
    (buffer.afterAll operations).cursor ≤ (buffer.afterAll operations).length := by
  induction operations generalizing buffer with
  | nil => exact within
  | cons operation rest inductionHypothesis =>
    exact inductionHypothesis (after_cursor_le within operation)

/-- An edit keeps the cursor in place. -/
theorem put_keepsPlace (within : buffer.cursor ≤ buffer.length) {first last : Nat}
    (upright : first ≤ last) (inside : last ≤ buffer.length) (inserted : Text)
    (anchor : Option Nat) :
    buffer.KeepsPlace first last inserted
      (buffer.put ⟨first, last - first, inserted⟩ anchor) := by
  have ends : first + (last - first) = last := Nat.add_sub_cancel' upright
  have text : (buffer.put ⟨first, last - first, inserted⟩ anchor).text =
      buffer.text.take first ++ inserted ++ buffer.text.drop last := by
    simp only [put, Change.applyTo, ends]
  have front : (buffer.text.take first).length = first :=
    List.length_take_of_le (Nat.le_trans upright inside)
  refine ⟨upright, inside, text, ?_, ?_, ?_⟩
  · intro behind
    have reaches : first + (last - first) ≤ buffer.cursor := by rwa [ends]
    have cursor : (buffer.put ⟨first, last - first, inserted⟩ anchor).cursor =
        buffer.cursor - (last - first) + inserted.length := cursor_put reaches anchor
    refine ⟨?_, drop_put reaches within anchor⟩
    omega
  · intro ahead cut
    have cursor : (buffer.put ⟨first, last - first, inserted⟩ anchor).cursor = buffer.cursor := by
      simp only [put, followCursor, ends, Nat.not_le.mpr cut, Nat.not_lt.mpr ahead, if_false]
    refine ⟨cursor, ?_⟩
    rw [cursor, text, List.append_assoc, List.take_append_of_le_length (by rwa [front]),
      List.take_take, Nat.min_eq_left ahead]
  · intro begun cut
    have cursor : (buffer.put ⟨first, last - first, inserted⟩ anchor).cursor =
        (buffer.text.take first ++ inserted).length := by
      simp only [put, followCursor, ends, Nat.not_le.mpr cut, begun, if_true, if_false,
        List.length_append, front]
    refine ⟨by rw [cursor, List.length_append, front], ?_⟩
    rw [cursor, text, List.take_left]

/-- A pending character stands in front of the cursor, and the anchor is at it. -/
theorem Pending.anchored {operations : List Operation} {character : Char}
    (within : buffer.cursor ≤ buffer.length) (pending : buffer.Pending operations character) :
    let reached := buffer.afterAll operations
    0 < reached.cursor ∧ reached.anchor = some (reached.cursor - 1) ∧
      reached.text[reached.cursor - 1]? = some character := by
  obtain ⟨earlier, later, rfl, stand⟩ := pending
  have inside := afterAll_cursor_le earlier within
  generalize known : buffer.afterAll earlier = before at stand inside
  have reaches : buffer.afterAll (earlier ++ .type character :: later) =
      before.after (.type character) := by
    calc buffer.afterAll (earlier ++ .type character :: later)
        = ((buffer.afterAll earlier).after (.type character)).afterAll later :=
          List.foldl_append
      _ = (before.after (.type character)).afterAll later := by rw [known]
      _ = before.after (.type character) := stand.afterAll_eq
  have size : (before.text.take before.cursor).length = before.cursor :=
    List.length_take_of_le inside
  have typed := after_type (List.take_append_drop before.cursor before.text).symm size.symm character
  rw [reaches, typed]
  simp

/-- Where an anchor is set after some operations, a typed character is pending. -/
theorem pending_of_anchor (free : buffer.anchor = none) (operations : List Operation)
    (anchored : (buffer.afterAll operations).anchor ≠ none) :
    ∃ character, buffer.Pending operations character := by
  induction operations using List.reverseRecOn with
  | nil => exact absurd free anchored
  | append_singleton operations operation inductionHypothesis =>
    have reaches : buffer.afterAll (operations ++ [operation]) =
        (buffer.afterAll operations).after operation := List.foldl_append
    rw [reaches] at anchored
    have turn := turn_after (buffer.afterAll operations) operation
    generalize (buffer.afterAll operations).after operation = next at turn anchored
    cases turn with
    | still stands =>
      obtain ⟨character, earlier, later, rfl, stand⟩ := inductionHypothesis anchored
      refine ⟨character, earlier, later ++ [operation], by simp, stand.concat ?_⟩
      simpa [afterAll] using stands
    | released => exact absurd rfl anchored
    | edited asked upright =>
      cases operation with
      | type character => exact ⟨character, operations, [], rfl, trivial⟩
      | _ => exact absurd rfl anchored

/-- The cursor and the anchor follow the text, whatever has been done to the buffer. The cursor
stands in the text. An anchor is set exactly while the character typed last is pending, that is,
until the next successful edit, the next setting of the cursor or the end of a reply; and then it
marks the character in front of the cursor, which is the one typed.

A further edit of a range that is not inverted succeeds, clamped to the text, and keeps the cursor
in place. An inverted range is refused and changes nothing. -/
theorem cursor_follows_text (text : Text) (operations : List Operation) :
    let reached := (ofText text).afterAll operations
    reached.cursor ≤ reached.length ∧
      (reached.anchor ≠ none ↔ ∃ character, (ofText text).Pending operations character) ∧
      (∀ character, (ofText text).Pending operations character →
        0 < reached.cursor ∧ reached.anchor = some (reached.cursor - 1) ∧
          reached.text[reached.cursor - 1]? = some character) ∧
      ∀ operation edit, operation.edit? reached = some edit →
        (edit.start ≤ edit.stop →
          let first := min edit.start reached.length
          let last := min edit.stop reached.length
          (∃ next, reached.perform operation =
              .ok (next, some ⟨first, last - first, edit.inserted⟩) ∧
            reached.KeepsPlace first last edit.inserted next)) ∧
        (edit.stop < edit.start →
          reached.perform operation = .error (.invertedRange edit.start edit.stop) ∧
            reached.after operation = reached) := by
  intro reached
  have start : (ofText text).cursor ≤ (ofText text).length := Nat.le_refl _
  have within : reached.cursor ≤ reached.length := afterAll_cursor_le operations start
  refine ⟨within, ⟨pending_of_anchor rfl operations, ?_⟩, fun character => Pending.anchored start, ?_⟩
  · rintro ⟨character, pending⟩
    rw [(pending.anchored start).2.1]
    exact Option.some_ne_none _
  · intro operation edit asked
    constructor
    · intro upright first last
      refine ⟨_, perform_of_upright asked upright, ?_⟩
      exact put_keepsPlace within (by omega) (Nat.min_le_right _ _) edit.inserted _
    · intro inverted
      have refused := perform_of_inverted asked inverted
      exact ⟨refused, by simp only [after, refused]⟩

/-- A character is pending, also after an edit that is refused; the next edit ends that. -/
example : ((ofText ['a', 'b']).afterAll [.setCursor 1, .type 'c', .delete 2 1]).anchor = some 1 ∧
    ((ofText ['a', 'b']).afterAll [.setCursor 1, .type 'c', .insert 9 []]) =
      ⟨['a', 'c', 'b'], 2, none⟩ := by decide

end Typeahead.Buffer

import Typeahead.Proofs.Completion.Run
import Typeahead.Proofs.Document.Script
import Typeahead.Proofs.Session.Working

/-!
# Where a reply may edit

Where the span begins and where the cursor stands are two numbers that edits of the user can bring
into any order, and each kind of reply builds its range from them in a way of its own. Together
they bound all of it: the *neighbourhood* of the span reaches from the lesser of the two to the
greater of the span's start and the place behind the character at the cursor.

A reply asks for one effect at most, and an edit that it asks for lies in the neighbourhood, with
its ends in order (`apply_within`). Clamping such an edit to a text keeps it there, so that what
stands before and behind the neighbourhood is spared (`Edit.Within.spares`). The main result,
`reply_confined`, puts both together for any state, reply, cursor and buffer.
-/

namespace Typeahead

namespace Buffer

/-- What stands before `low` and from `high` on is the same in both texts, as far as the first of
them reaches. -/
def Spares (low high : Nat) (before after : Text) : Prop :=
  ∃ between, after = before.take low ++ between ++ before.drop high

/-- A text that stays is spared everywhere in it. -/
theorem Spares.refl {low high : Nat} (ordered : low ≤ high) (text : Text) :
    Spares low high text text := by
  refine ⟨(text.drop low).take (high - low), ?_⟩
  have rear : (text.drop low).drop (high - low) = text.drop high := by
    rw [List.drop_drop, Nat.add_sub_cancel' ordered]
  rw [List.append_assoc, ← rear, List.take_append_drop, List.take_append_drop]

/-- A change spares what stands before its first character, and what stands behind its last one. -/
theorem applyTo_spares {change : Change} {text : Text} {low high : Nat}
    (begins : min low text.length ≤ change.offset) (inside : change.offset ≤ text.length)
    (ends : change.offset + change.removed ≤ high) :
    Spares low high text (change.applyTo text) := by
  let last := change.offset + change.removed
  have front : (text.take change.offset).take low = text.take low := by
    rw [List.take_take, List.take_eq_take_iff]
    omega
  have rear : (text.drop last).drop (high - last) = text.drop high := by
    rw [List.drop_drop, Nat.add_sub_cancel' ends]
  refine ⟨(text.take change.offset).drop low ++ change.text ++
    (text.drop last).take (high - last), ?_⟩
  calc change.applyTo text
      = text.take change.offset ++ change.text ++ text.drop last := rfl
    _ = ((text.take change.offset).take low ++ (text.take change.offset).drop low) ++
          change.text ++
          ((text.drop last).take (high - last) ++ (text.drop last).drop (high - last)) := by
        rw [List.take_append_drop, List.take_append_drop]
    _ = _ := by
        rw [front, rear]
        simp only [List.append_assoc]

/-- The range of an edit is not inverted, and lies between two offsets. -/
structure Edit.Within (edit : Edit) (low high : Nat) : Prop where
  begins : low ≤ edit.start
  upright : edit.start ≤ edit.stop
  ends : edit.stop ≤ high

/-- An edit between two offsets is carried out by any buffer, however short its text, and spares
what stands outside of them. -/
theorem Edit.Within.spares {edit : Edit} {low high : Nat} (within : edit.Within low high)
    {buffer : Buffer} {operation : Operation} (asked : operation.edit? buffer = some edit) :
    (∃ next change, buffer.perform operation = .ok (next, some change)) ∧
      Spares low high buffer.text (buffer.after operation).text := by
  obtain ⟨begins, upright, ends⟩ := within
  have outcome := after_outcome buffer operation
  generalize buffer.after operation = next at outcome ⊢
  generalize (buffer.change? operation).toList = changes at outcome
  cases outcome with
  | idle nothing => simp [asked] at nothing
  | refused others inverted =>
    obtain rfl := Option.some.inj (asked.symm.trans others)
    exact absurd inverted (Nat.not_lt.mpr upright)
  | @edited _ _ change others ordered performed first last put followed =>
    obtain rfl := Option.some.inj (asked.symm.trans others)
    refine ⟨⟨next, change, performed⟩, ?_⟩
    rw [followed]
    simp only [length] at first last
    exact applyTo_spares (by omega) (by omega) (by omega)

/-- One such edit, or none, spares what stands outside of the two offsets. Of two this does not
hold: the first may have moved what the second finds there. -/
theorem afterAll_spares {buffer : Buffer} {operations : List Operation} {low high : Nat}
    (ordered : low ≤ high) (few : operations.length ≤ 1)
    (within : ∀ operation ∈ operations, ∃ edit,
      operation.edit? buffer = some edit ∧ edit.Within low high) :
    Spares low high buffer.text (buffer.afterAll operations).text := by
  match operations, few with
  | [], _ => exact .refl ordered buffer.text
  | [operation], _ =>
    obtain ⟨edit, asked, inside⟩ := within operation (List.mem_singleton_self operation)
    exact (inside.spares asked).2

end Buffer

namespace Completion

/-- Every edit that a reply asks for lies in the neighbourhood of the span, whatever the buffer. -/
theorem apply_within (completion : Completion) (reply : Reply) (cursor : Nat) (buffer : Buffer) :
    ∀ operation ∈ (completion.apply reply cursor).2.filterMap Effect.operation?,
      ∃ edit, operation.edit? buffer = some edit ∧
        edit.Within (min completion.spanStart cursor) (max completion.spanStart (cursor + 1)) := by
  intro operation member
  obtain ⟨effect, asked, performs⟩ := List.mem_filterMap.mp member
  have answered := respond_answered completion reply cursor
  simp only [Completion.apply] at asked
  generalize completion.respond reply cursor = outcome at answered asked
  cases answered with
  | takenBack takes =>
    simp only [revert] at asked
    split at asked
    · obtain rfl := List.mem_singleton.mp asked
      obtain rfl := Option.some.inj performs
      exact ⟨_, rfl, by dsimp only; omega, by dsimp only; omega, by dsimp only; omega⟩
    · cases asked
  | restarted | moved => cases asked
  | closed full =>
    obtain rfl := List.mem_singleton.mp asked
    obtain rfl := Option.some.inj performs
    refine ⟨_, rfl, ?_, Nat.le_refl _, ?_⟩
    all_goals
      dsimp only
      split
      · simp only [moveSpan]
        omega
      · dsimp only
        omega
  | expanded text brings latest =>
    simp only [expand] at asked
    split at asked
    · cases asked
    · obtain rfl := List.mem_singleton.mp asked
      obtain rfl := Option.some.inj performs
      exact ⟨_, rfl, by dsimp only; omega, by dsimp only; omega, by dsimp only; omega⟩
  | stayed next effects span history sameLatest notFull noText keeps edits =>
    obtain ⟨message, rfl⟩ | rfl := edits effect asked
    · cases performs
    · obtain rfl := Option.some.inj performs
      exact ⟨_, rfl, by dsimp only; omega, by dsimp only; omega, by dsimp only; omega⟩

/-- A reply edits the neighbourhood of the span and nothing else. Whatever the state, the reply and
the cursor, there is one effect at most; each operation that it asks for names a range that is not
inverted, and every buffer carries it out; and any buffer to which this is done keeps the
characters before the neighbourhood, as it was before the reply, and those from behind it on. -/
theorem reply_confined (completion : Completion) (reply : Reply) (cursor : Nat)
    (buffer : Buffer) :
    let effects := (completion.apply reply cursor).2
    let operations := effects.filterMap Effect.operation?
    let low := min completion.spanStart cursor
    let high := max completion.spanStart (cursor + 1)
    effects.length ≤ 1 ∧
      (∀ operation ∈ operations,
        (∃ edit, operation.edit? buffer = some edit ∧ edit.start ≤ edit.stop) ∧
          ∃ next change, buffer.perform operation = .ok (next, some change)) ∧
      Buffer.Spares low high buffer.text (buffer.afterAll operations).text := by
  intro effects operations low high
  have few : effects.length ≤ 1 := apply_effects_le completion reply cursor
  have within := apply_within completion reply cursor buffer
  refine ⟨few, ?_, ?_⟩
  · intro operation member
    obtain ⟨edit, asked, inside⟩ := within operation member
    exact ⟨⟨edit, asked, inside.upright⟩, (inside.spares asked).1⟩
  · have alone : operations.length ≤ 1 := Nat.le_trans (List.length_filterMap_le _ _) few
    exact Buffer.afterAll_spares (by omega) alone within

end Completion

end Typeahead

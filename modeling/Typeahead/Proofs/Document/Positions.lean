import Mathlib.Data.List.Induction
import Mathlib.Data.List.TakeWhile
import Mathlib.Data.Nat.SuccPred
import Mathlib.Order.Bounds.Basic
import Mathlib.Order.Interval.Set.Monotone
import Typeahead.Document.Buffer

/-!
# Positions and offsets

Positions are ordered line first, and offsets by their number. From offsets to positions one
counts characters forward: each character leads one position on (`advance`, `lt_advance`), so the
order is kept, up to the end of the text. The way back looks for a line, and then for a character
in it, and has to come out somewhere even if there is no such place.

A text is a single line, or a line, its end and the text behind it (`line_cases`). By this every
position is caught between the offset found for it and the next one (`offsetFrom_brackets`). The
main result, `positions_adjoint`, draws the conclusions: the offset of a position is the greatest
whose position is not past it, so that each way undoes the other wherever it can.
-/

namespace Typeahead

namespace Position

/-- Positions come in the order in which documents sort them. -/
instance : PartialOrder Position where
  le left right := left.le right = true
  le_refl position := by simp [le]
  le_trans first second third := by
    simp only [le, Bool.or_eq_true, Bool.and_eq_true, decide_eq_true_eq, beq_iff_eq]
    omega
  le_antisymm left right := by
    obtain ⟨line, character⟩ := left
    obtain ⟨otherLine, otherCharacter⟩ := right
    simp only [le, Bool.or_eq_true, Bool.and_eq_true, decide_eq_true_eq, beq_iff_eq, mk.injEq]
    omega

/-- A position is not past another one if its line is before the other's, or its character in the
same line is not past the other's. -/
theorem le_iff {left right : Position} :
    left ≤ right ↔ left.line < right.line ∨
      left.line = right.line ∧ left.character ≤ right.character := by
  change left.le right = true ↔ _
  simp [le]

/-- A position is before another one if its line is, or its character in the same line. -/
theorem lt_iff {left right : Position} :
    left < right ↔ left.line < right.line ∨
      left.line = right.line ∧ left.character < right.character := by
  rw [lt_iff_le_not_ge, le_iff, le_iff]
  omega

/-- A text has such a line, and in it the character, or its end right there. -/
def IsIn (position : Position) (text : Text) : Prop :=
  ∃ line, (text.splitOn '\n')[position.line]? = some line ∧ position.character ≤ line.length

/-- The position behind a character that stands at a position. -/
def advance (position : Position) (character : Char) : Position :=
  if Buffer.continuesLine character then ⟨position.line, position.character + 1⟩
  else ⟨position.line + 1, 0⟩

/-- The position behind a text that begins at a position. -/
def behind (position : Position) (text : Text) : Position :=
  text.foldl advance position

/-- A character leads to a later position. -/
theorem lt_advance (position : Position) (character : Char) :
    position < position.advance character := by
  rw [lt_iff, advance]
  split
  · exact .inr ⟨rfl, Nat.lt_succ_self _⟩
  · exact .inl (Nat.lt_succ_self _)

/-- Behind two texts is behind the second, from behind the first. -/
theorem behind_append (position : Position) (first second : Text) :
    position.behind (first ++ second) = (position.behind first).behind second :=
  List.foldl_append

/-- Within a line, characters are counted. -/
theorem behind_line (position : Position) {line : Text} (whole : '\n' ∉ line) :
    position.behind line = ⟨position.line, position.character + line.length⟩ := by
  induction line generalizing position with
  | nil => rfl
  | cons character rest inductionHypothesis =>
    obtain ⟨differs, others⟩ := not_or.mp (mt List.mem_cons.mpr whole)
    have continues : Buffer.continuesLine character = true := by
      simpa [Buffer.continuesLine] using Ne.symm differs
    calc position.behind (character :: rest)
        = (position.advance character).behind rest := rfl
      _ = Position.behind ⟨position.line, position.character + 1⟩ rest := by
          rw [advance, if_pos continues]
      _ = ⟨position.line, position.character + (rest.length + 1)⟩ := by
          rw [inductionHypothesis _ others]
          simp only [mk.injEq, true_and]
          omega

/-- What stands one line further down begins and ends one line further down. -/
theorem behind_below (line character : Nat) (text : Text) :
    behind ⟨line + 1, character⟩ text =
      ⟨(behind ⟨line, character⟩ text).line + 1, (behind ⟨line, character⟩ text).character⟩ := by
  induction text generalizing line character with
  | nil => rfl
  | cons first rest inductionHypothesis =>
    change behind (advance _ first) rest =
      ⟨(behind (advance _ first) rest).line + 1, (behind (advance _ first) rest).character⟩
    unfold advance
    split
    · exact inductionHypothesis _ _
    · exact inductionHypothesis _ _

end Position

namespace Buffer

open Position

/-- The position of an offset is the one behind the text before it. -/
theorem positionAt_eq (buffer : Buffer) (offset : Nat) :
    buffer.positionAt offset = behind ⟨0, 0⟩ (buffer.text.take offset) := by
  simp only [positionAt]
  generalize buffer.text.take offset = before
  induction before using List.reverseRecOn with
  | nil => rfl
  | append_singleton earlier character inductionHypothesis =>
    rw [behind_append, ← inductionHypothesis]
    change _ = advance _ character
    unfold advance
    by_cases ends : character = '\n'
    · simp [ends, continuesLine]
    · simp [ends, continuesLine, List.takeWhile_cons]

/-- A text is one line, or a line, its end, and the text behind that. -/
theorem line_cases (text : Text) :
    '\n' ∉ text ∨ ∃ line rest, '\n' ∉ line ∧ text = line ++ '\n' :: rest := by
  by_cases broken : '\n' ∈ text
  · obtain ⟨line, rest, same, whole⟩ := List.eq_append_cons_of_mem broken
    exact .inr ⟨line, rest, whole, same⟩
  · exact .inl broken

/-- A line continues to its end. -/
theorem continues_of_whole {line : Text} (whole : '\n' ∉ line) :
    ∀ character ∈ line, continuesLine character = true := by
  intro character member
  rw [continuesLine, bne_iff_ne]
  rintro rfl
  exact whole member

section OffsetFrom

variable {line : Text} (whole : '\n' ∉ line) (rest : Text) (character below : Nat)

include whole

/-- In a single line a character is found by its number, and none past the end. -/
theorem offsetFrom_line : offsetFrom character 0 line = min character line.length := by
  rw [offsetFrom, List.takeWhile_eq_self_iff.mpr (continues_of_whole whole)]

/-- In the first of several lines it is found likewise. -/
theorem offsetFrom_first : offsetFrom character 0 (line ++ '\n' :: rest) =
    min character line.length := by
  rw [offsetFrom, List.takeWhile_append_of_pos (continues_of_whole whole)]
  simp [continuesLine]

/-- Further lines are looked for behind the end of the first one. -/
theorem offsetFrom_below : offsetFrom character (below + 1) (line ++ '\n' :: rest) =
    line.length + 1 + offsetFrom character below rest := by
  rw [offsetFrom, List.takeWhile_append_of_pos (continues_of_whole whole),
    List.dropWhile_append_of_pos (continues_of_whole whole)]
  simp [continuesLine]

/-- A line that is not there is looked for at the end of the text. -/
theorem offsetFrom_past : offsetFrom character (below + 1) line = line.length := by
  rw [offsetFrom, List.dropWhile_eq_nil_iff.mpr (continues_of_whole whole)]

end OffsetFrom

section Behind

variable {line : Text} (whole : '\n' ∉ line) (rest : Text)

include whole

/-- As far as the first line reaches, its characters are counted. -/
theorem behind_take_line {offset : Nat} (within : offset ≤ line.length) :
    behind ⟨0, 0⟩ ((line ++ rest).take offset) = ⟨0, offset⟩ := by
  rw [List.take_append_of_le_length within,
    behind_line _ fun broken => whole (List.mem_of_mem_take broken), List.length_take,
    Nat.min_eq_left within, Nat.zero_add]

/-- Behind the end of the first line positions are one line further down than in the rest alone. -/
theorem behind_take_below (offset : Nat) :
    behind ⟨0, 0⟩ ((line ++ '\n' :: rest).take (line.length + 1 + offset)) =
      ⟨(behind ⟨0, 0⟩ (rest.take offset)).line + 1,
        (behind ⟨0, 0⟩ (rest.take offset)).character⟩ := by
  have taken : (line ++ '\n' :: rest).take (line.length + 1 + offset) =
      line ++ '\n' :: rest.take offset := by
    rw [Nat.add_assoc, List.take_length_add_append, Nat.add_comm, List.take_succ_cons]
  calc behind ⟨0, 0⟩ ((line ++ '\n' :: rest).take (line.length + 1 + offset))
      = behind (behind ⟨0, 0⟩ line) ('\n' :: rest.take offset) := by rw [taken, behind_append]
    _ = behind ⟨0 + 1, 0⟩ (rest.take offset) := by
        rw [behind_line _ whole]
        rfl
    _ = _ := behind_below 0 0 _

end Behind

/-- The offset found for a position lies in the text. Its own position is not past the one sought,
and that of the next offset is. -/
theorem offsetFrom_brackets (character below : Nat) (text : Text) :
    let offset := offsetFrom character below text
    offset ≤ text.length ∧
      behind ⟨0, 0⟩ (text.take offset) ≤ ⟨below, character⟩ ∧
      (offset < text.length → ⟨below, character⟩ < behind ⟨0, 0⟩ (text.take (offset + 1))) := by
  induction below generalizing text with
  | zero =>
    obtain whole | ⟨line, rest, whole, rfl⟩ := line_cases text
    · rw [offsetFrom_line whole]
      have part : ∀ {offset : Nat}, offset ≤ text.length →
          behind ⟨0, 0⟩ (text.take offset) = ⟨0, offset⟩ := fun within => by
        simpa using behind_take_line whole [] within
      refine ⟨Nat.min_le_right _ _, ?_, ?_⟩
      · rw [part (Nat.min_le_right _ _), le_iff]
        exact .inr ⟨rfl, Nat.min_le_left _ _⟩
      · intro before
        rw [part before, lt_iff]
        refine .inr ⟨rfl, ?_⟩
        dsimp only
        omega
    · rw [offsetFrom_first whole]
      refine ⟨?_, ?_, ?_⟩
      · rw [List.length_append]
        omega
      · rw [behind_take_line whole _ (Nat.min_le_right _ _), le_iff]
        exact .inr ⟨rfl, Nat.min_le_left _ _⟩
      · intro before
        by_cases within : character < line.length
        · rw [Nat.min_eq_left (Nat.le_of_lt within), behind_take_line whole _ within, lt_iff]
          exact .inr ⟨rfl, Nat.lt_succ_self _⟩
        · rw [Nat.min_eq_right (Nat.le_of_not_lt within), lt_iff]
          have further := behind_take_below whole rest 0
          rw [Nat.add_zero] at further
          rw [further]
          exact .inl (Nat.succ_pos _)
  | succ below inductionHypothesis =>
    obtain whole | ⟨line, rest, whole, rfl⟩ := line_cases text
    · rw [offsetFrom_past whole]
      refine ⟨Nat.le_refl _, ?_, fun before => absurd before (Nat.lt_irrefl _)⟩
      rw [List.take_length, behind_line _ whole, le_iff]
      exact .inl (Nat.succ_pos _)
    · rw [offsetFrom_below whole]
      obtain ⟨inside, notPast, past⟩ := inductionHypothesis rest
      refine ⟨?_, ?_, ?_⟩
      · rw [List.length_append, List.length_cons]
        omega
      · rw [behind_take_below whole, le_iff]
        rw [le_iff] at notPast
        dsimp only at notPast ⊢
        omega
      · intro before
        rw [List.length_append, List.length_cons] at before
        have later := past (by omega)
        rw [Nat.add_assoc _ _ 1, behind_take_below whole, lt_iff]
        rw [lt_iff] at later
        dsimp only at later ⊢
        omega

/-- The offset found for a position is its own just if the text has that position. -/
theorem behind_offsetFrom_iff (character below : Nat) (text : Text) :
    behind ⟨0, 0⟩ (text.take (offsetFrom character below text)) = ⟨below, character⟩ ↔
      IsIn ⟨below, character⟩ text := by
  induction below generalizing text with
  | zero =>
    obtain whole | ⟨line, rest, whole, rfl⟩ := line_cases text
    · have part := behind_take_line whole [] (Nat.min_le_right character text.length)
      rw [List.append_nil] at part
      simp [IsIn, offsetFrom_line whole, part, List.splitOn_eq_singleton whole]
    · have part := behind_take_line whole ('\n' :: rest) (Nat.min_le_right character line.length)
      simp [IsIn, offsetFrom_first whole, part, List.splitOn_append_cons_self_of_not_mem whole]
  | succ below inductionHypothesis =>
    obtain whole | ⟨line, rest, whole, rfl⟩ := line_cases text
    · simp [IsIn, offsetFrom_past whole, behind_line _ whole, List.splitOn_eq_singleton whole]
    · have same := inductionHypothesis rest
      simp only [IsIn] at same
      simp only [IsIn, offsetFrom_below whole, behind_take_below whole,
        List.splitOn_append_cons_self_of_not_mem whole, List.getElem?_cons_succ, ← same]
      generalize behind ⟨0, 0⟩ (rest.take _) = reached
      cases reached
      simp

section Adjoint

variable (buffer : Buffer)

/-- Later offsets have later positions. -/
theorem positionAt_strictMonoOn : StrictMonoOn buffer.positionAt (Set.Iic buffer.length) := by
  refine strictMonoOn_Iic_of_lt_succ fun offset before => ?_
  have inside : offset < buffer.text.length := before
  rw [Nat.succ_eq_succ, positionAt_eq, positionAt_eq, ← List.take_append_getElem inside,
    behind_append]
  exact lt_advance _ _

/-- Past the end there are no more positions. -/
theorem positionAt_beyond {offset : Nat} (beyond : buffer.length ≤ offset) :
    buffer.positionAt offset = buffer.positionAt buffer.length := by
  rw [positionAt_eq, positionAt_eq, List.take_of_length_le beyond, length, List.take_length]

/-- The offset of a position is the greatest whose own position is not past it. -/
theorem offsetAt_isGreatest (position : Position) :
    IsGreatest {offset | offset ≤ buffer.length ∧ buffer.positionAt offset ≤ position}
      (buffer.offsetAt position) := by
  obtain ⟨inside, notPast, past⟩ :=
    offsetFrom_brackets position.character position.line buffer.text
  rw [← positionAt_eq] at notPast past
  constructor
  · exact ⟨inside, notPast⟩
  · rintro offset ⟨within, before⟩
    by_contra later
    have next : buffer.offsetAt position + 1 ≤ offset := Nat.lt_of_not_le later
    have reached : buffer.positionAt (buffer.offsetAt position + 1) ≤ buffer.positionAt offset :=
      buffer.positionAt_strictMonoOn.monotoneOn (Nat.le_trans next within) within next
    exact lt_irrefl _ ((past (Nat.le_trans next within)).trans_le (reached.trans before))

/-- The offset of the position of an offset is that offset, or the end of the text. -/
theorem offsetAt_positionAt (offset : Nat) :
    buffer.offsetAt (buffer.positionAt offset) = min offset buffer.length := by
  have clamped : buffer.positionAt (min offset buffer.length) = buffer.positionAt offset := by
    rcases Nat.le_total offset buffer.length with within | beyond
    · rw [Nat.min_eq_left within]
    · rw [Nat.min_eq_right beyond, buffer.positionAt_beyond beyond]
  have inside : min offset buffer.length ≤ buffer.length := Nat.min_le_right _ _
  refine (buffer.offsetAt_isGreatest _).unique ⟨⟨inside, clamped.le⟩, ?_⟩
  rintro other ⟨within, before⟩
  rw [← clamped] at before
  exact (buffer.positionAt_strictMonoOn.le_iff_le within inside).mp before

/-- The position of the offset of a position is that position, if the text has it. -/
theorem positionAt_offsetAt_iff (position : Position) :
    buffer.positionAt (buffer.offsetAt position) = position ↔ position.IsIn buffer.text := by
  rw [positionAt_eq]
  exact behind_offsetFrom_iff position.character position.line buffer.text

/-- Later positions have offsets that are not earlier. -/
theorem offsetAt_mono : Monotone buffer.offsetAt := by
  intro earlier later before
  obtain ⟨inside, notPast⟩ := (buffer.offsetAt_isGreatest earlier).1
  exact (buffer.offsetAt_isGreatest later).2 ⟨inside, notPast.trans before⟩

end Adjoint

/-- Offsets and positions of a buffer are adjoint. The position of an offset grows strictly with it
up to the end of the text, and no further. The offset of any position, whether the text has it or
not, is the greatest in the text whose own position is not past it. Therefore an offset comes back
from its position, clamped to the text; a position comes back from its offset just if the text has
it; and the offset of a position grows with it. -/
theorem positions_adjoint (buffer : Buffer) :
    StrictMonoOn buffer.positionAt (Set.Iic buffer.length) ∧
      (∀ beyond, buffer.positionAt (buffer.length + beyond) = buffer.positionAt buffer.length) ∧
      (∀ position, IsGreatest
        {offset | offset ≤ buffer.length ∧ buffer.positionAt offset ≤ position}
        (buffer.offsetAt position)) ∧
      (∀ offset, buffer.offsetAt (buffer.positionAt offset) = min offset buffer.length) ∧
      (∀ position, buffer.positionAt (buffer.offsetAt position) = position ↔
        position.IsIn buffer.text) ∧
      Monotone buffer.offsetAt := by
  refine ⟨buffer.positionAt_strictMonoOn, ?_, buffer.offsetAt_isGreatest,
    buffer.offsetAt_positionAt, buffer.positionAt_offsetAt_iff, buffer.offsetAt_mono⟩
  intro beyond
  exact buffer.positionAt_beyond (Nat.le_add_right _ _)

/-- A text that ends with a line break has an empty last line, and no line after it. -/
example : (ofText ['a', '\n']).positionAt 2 = ⟨1, 0⟩ ∧ (ofText ['a', '\n']).offsetAt ⟨0, 5⟩ = 1 ∧
    (ofText ['a', '\n']).offsetAt ⟨7, 0⟩ = 2 := by decide

end Buffer

end Typeahead

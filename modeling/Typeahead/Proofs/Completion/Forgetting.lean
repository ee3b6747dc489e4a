import Mathlib.Data.List.Infix
import Typeahead.Completion.SpanHistory

/-!
# What a bounded history forgets

The bounded history is compared with one that forgets nothing, a list that grows as it must. Both
go through the same operations in any order. Starts are forgotten at one end and taken back at the
other, so the bounded history may run dry while the other has not, and fill up again.

What the bounded history holds are always the newest starts, and those that it lacks are no more
than the other history has ever held beyond the bound (`Recalls`). Each operation keeps this
(`Recalls.step`), and so does every run of operations (`Recalls.run`). When the bound was
never exceeded, nothing is lacking, and the two histories cannot be told apart
(`Recalls.run_agrees`).
-/

namespace Typeahead.SpanHistory

/-- What can be done to a history. -/
inductive Operation where
  /-- A start is recorded. -/
  | push (start : Nat)
  /-- A step is taken back. -/
  | pop
  /-- All starts are forgotten. -/
  | clear
deriving Repr, DecidableEq

/-- The start that an operation goes back to, if it goes back, and the history after it. -/
def perform (history : SpanHistory) : Operation → Option Nat × SpanHistory
  | .push start => (none, history.push start)
  | .pop => (some history.pop.1, history.pop.2)
  | .clear => (none, history.clear)

/-- The same for a history without a bound, the newest start at the head. -/
def performUnbounded (starts : List Nat) : Operation → Option Nat × List Nat
  | .push start => (none, start :: starts)
  | .pop => (some (starts.headD 0), starts.tail)
  | .clear => (none, [])

/-- The starts that some operations go back to, one after another, and the history after them. -/
def performAll {History : Type} (perform : History → Operation → Option Nat × History) :
    List Operation → History → List Nat × History
  | [], history => ([], history)
  | operation :: rest, history =>
    let (start, next) := perform history operation
    let (starts, last) := performAll perform rest next
    (start.toList ++ starts, last)

/-- The most starts that a history without a bound holds at any moment of some operations. -/
def peak : List Operation → List Nat → Nat
  | [], starts => starts.length
  | operation :: rest, starts =>
    max starts.length (peak rest (performUnbounded starts operation).2)

/-- The history holds the newest of these starts, and no more than so many of them are lacking. -/
structure Recalls (history : SpanHistory) (starts : List Nat) (lacking : Nat) : Prop where
  newest : history.newestFirst <+: starts
  lacks : starts.length ≤ history.depth + lacking

variable {history : SpanHistory} {starts : List Nat} {lacking : Nat}

/-- A history that lacks nothing is the one without a bound. -/
theorem Recalls.all (recalls : history.Recalls starts 0) : history.newestFirst = starts :=
  recalls.newest.eq_of_length_le recalls.lacks

/-- No operation changes how many starts a history keeps. -/
theorem perform_capacity (history : SpanHistory) (operation : Operation) :
    (history.perform operation).2.capacity = history.capacity := by
  cases operation <;> rfl

/-- Recording a start keeps what a history recalls. If the history is full, the oldest start that it
held is lacking from now on. -/
theorem Recalls.push (recalls : history.Recalls starts lacking) (start : Nat)
    (fits : starts.length + 1 ≤ history.capacity + lacking) :
    (history.push start).Recalls (start :: starts) lacking := by
  constructor
  · exact (List.take_prefix _ _).trans ((List.prefix_cons_inj start).mpr recalls.newest)
  · have lacks := recalls.lacks
    simp only [depth, SpanHistory.push, List.length_take, List.length_cons] at lacks ⊢
    omega

/-- Taking a step back takes the same start from both histories, unless the bounded one has run
dry; then it takes one that is lacking. -/
theorem Recalls.pop (recalls : history.Recalls starts lacking) :
    history.drop.Recalls starts.tail lacking := by
  obtain ⟨newest, lacks⟩ := recalls
  constructor
  · simpa only [drop, List.drop_one] using newest.drop 1
  · simp only [depth, drop, List.length_tail] at lacks ⊢
    omega

/-- The start gone back to is the same, unless the bounded history has run dry; then it is the
beginning of the document. -/
theorem Recalls.popped (recalls : history.Recalls starts lacking) :
    history.pop.1 = if history.isEmpty then 0 else starts.headD 0 := by
  have newest := recalls.newest
  cases held : history.newestFirst with
  | nil => simp [SpanHistory.pop, peek, isEmpty, held]
  | cons start older =>
    rw [held] at newest
    obtain ⟨rest, rfl⟩ := newest
    simp [SpanHistory.pop, peek, isEmpty, held]

/-- Every operation keeps what a history recalls, when it allows for what is lacking. -/
theorem Recalls.step (recalls : history.Recalls starts lacking) (operation : Operation)
    (fits : (performUnbounded starts operation).2.length ≤ history.capacity + lacking) :
    (history.perform operation).2.Recalls (performUnbounded starts operation).2 lacking := by
  cases operation with
  | push start => exact recalls.push start fits
  | pop => exact recalls.pop
  | clear => exact ⟨List.nil_prefix, Nat.zero_le _⟩

/-- A history that lacks nothing goes back to the same start. -/
theorem Recalls.step_agrees (recalls : history.Recalls starts 0) (operation : Operation) :
    (history.perform operation).1 = (performUnbounded starts operation).1 := by
  cases operation with
  | push start => rfl
  | clear => rfl
  | pop =>
    have all := recalls.all
    simp only [perform, performUnbounded, recalls.popped, isEmpty, all]
    cases starts <;> rfl

/-- The starts held at the beginning count for the peak. -/
theorem length_le_peak (operations : List Operation) (starts : List Nat) :
    starts.length ≤ peak operations starts := by
  cases operations with
  | nil => exact Nat.le_refl _
  | cons operation rest => exact Nat.le_max_left _ _

/-- More operations do not lower the peak. -/
theorem peak_le_append (before later : List Operation) (starts : List Nat) :
    peak before starts ≤ peak (before ++ later) starts := by
  induction before generalizing starts with
  | nil => exact length_le_peak later starts
  | cons operation rest inductionHypothesis =>
    have further := inductionHypothesis (performUnbounded starts operation).2
    simp only [List.cons_append, peak]
    omega

/-- Every run of operations keeps what a history recalls, when it allows for what is lacking at the
peak. -/
theorem Recalls.run (operations : List Operation) (recalls : history.Recalls starts lacking)
    (fits : peak operations starts ≤ history.capacity + lacking) :
    (performAll perform operations history).2.Recalls
      (performAll performUnbounded operations starts).2 lacking := by
  induction operations generalizing history starts with
  | nil => exact recalls
  | cons operation rest inductionHypothesis =>
    have later := Nat.le_trans (Nat.le_max_right _ _) fits
    have next := recalls.step operation (Nat.le_trans (length_le_peak rest _) later)
    rw [← perform_capacity history operation] at later
    exact inductionHypothesis next later

/-- While the bound is not exceeded, both histories go back to the same starts. -/
theorem Recalls.run_agrees (operations : List Operation)
    (recalls : history.Recalls starts 0) (fits : peak operations starts ≤ history.capacity) :
    (performAll perform operations history).1 =
      (performAll performUnbounded operations starts).1 := by
  induction operations generalizing history starts with
  | nil => rfl
  | cons operation rest inductionHypothesis =>
    have later := Nat.le_trans (Nat.le_max_right _ _) fits
    have next := recalls.step operation (Nat.le_trans (length_le_peak rest _) later)
    have now := recalls.step_agrees operation
    rw [← perform_capacity history operation] at later
    simp only [performAll, now, inductionHypothesis next later]

/-- No run changes how many starts a history keeps. -/
theorem performAll_capacity (operations : List Operation) (history : SpanHistory) :
    (performAll perform operations history).2.capacity = history.capacity := by
  induction operations generalizing history with
  | nil => rfl
  | cons operation rest inductionHypothesis =>
    exact (inductionHypothesis _).trans (perform_capacity history operation)

/-- Whatever is recorded, taken back and cleared, a bounded history holds the newest part of what a
history without a bound holds. It never holds more than the depth asked for, or one start where none
was asked for, and it lacks no more starts than the other history has held beyond that. A step
taken back leads where it leads in the other history, unless the bounded one has run dry; then it
leads to the beginning of the document. The operations may end anywhere, so this is said of every
moment.

If the other history never holds more than the bound, the two agree at every moment, and all steps
taken back lead to the same starts. -/
theorem keeps_newest_starts (depth : Nat) (operations : List Operation) :
    let (answers, history) := performAll perform operations (ofDepth depth)
    let (allAnswers, starts) := performAll performUnbounded operations []
    history.oldestFirst <:+ starts.reverse ∧
      history.depth ≤ max depth 1 ∧
      starts.length ≤ history.depth + (peak operations [] - max depth 1) ∧
      (history.perform .pop).1 =
        (if history.isEmpty then some 0 else (performUnbounded starts .pop).1) ∧
      (peak operations [] ≤ max depth 1 →
        answers = allAnswers ∧
          ∀ before, before <+: operations →
            (performAll perform before (ofDepth depth)).2.newestFirst =
              (performAll performUnbounded before []).2) := by
  have start (lacking : Nat) : (ofDepth depth).Recalls [] lacking :=
    ⟨List.nil_prefix, Nat.zero_le _⟩
  have allows : peak operations [] ≤ (ofDepth depth).capacity + (peak operations [] - max depth 1) :=
    Nat.sub_le_iff_le_add'.mp (Nat.le_refl _)
  have recalls := (start _).run operations allows
  have capacity := performAll_capacity operations (ofDepth depth)
  have bounded := (performAll perform operations (ofDepth depth)).2.bounded
  rw [capacity] at bounded
  refine ⟨List.reverse_suffix.mpr recalls.newest, bounded, recalls.lacks, ?_, ?_⟩
  · exact (congrArg some recalls.popped).trans (apply_ite some _ _ _)
  · intro fits
    refine ⟨(start 0).run_agrees operations fits, ?_⟩
    rintro before ⟨later, rfl⟩
    exact ((start 0).run before (Nat.le_trans (peak_le_append before later []) fits)).all

/-- Three starts are recorded where there is room for two. The bounded history runs dry a step before
the other one does, and what is recorded afterwards is held by both. -/
example : performAll perform [.push 1, .push 2, .push 3, .pop, .pop, .pop, .push 4] (ofDepth 2) =
      ([3, 2, 0], (ofDepth 2).push 4) ∧
    performAll performUnbounded [.push 1, .push 2, .push 3, .pop, .pop, .pop, .push 4] [] =
      ([3, 2, 1], [4]) := by decide

end Typeahead.SpanHistory

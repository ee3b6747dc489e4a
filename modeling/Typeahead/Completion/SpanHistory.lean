/-!
# The history of span starts

Each time the active span moves on, the start it leaves behind is recorded, so that a
revert can go back to it. The history is bounded: when it is full, recording a start
forgets the oldest one. Going back with nothing recorded leads to the beginning of
the document.
-/

namespace Typeahead

/-- The recorded starts, newest first, never more than `capacity` of them. -/
structure SpanHistory where
  /-- Most starts kept. -/
  capacity : Nat
  /-- The starts, the one to go back to first at the head. -/
  newestFirst : List Nat
  capacity_pos : 0 < capacity
  bounded : newestFirst.length ≤ capacity
deriving Repr, DecidableEq

namespace SpanHistory

/-- An empty history. It keeps at least one start, whatever depth is asked for. -/
def ofDepth (depth : Nat) : SpanHistory :=
  ⟨max depth 1, [], Nat.lt_of_lt_of_le Nat.zero_lt_one (Nat.le_max_right depth 1),
    Nat.zero_le _⟩

/-- Record a start that the span leaves. -/
def push (history : SpanHistory) (start : Nat) : SpanHistory :=
  { history with
    newestFirst := (start :: history.newestFirst).take history.capacity
    bounded := List.length_take_le _ _ }

/-- Forget the newest start. -/
def drop (history : SpanHistory) : SpanHistory :=
  { history with
    newestFirst := history.newestFirst.tail
    bounded := Nat.le_trans (by simp) history.bounded }

/-- Forget every start. -/
def clear (history : SpanHistory) : SpanHistory :=
  { history with newestFirst := [], bounded := Nat.zero_le _ }

/-- The newest start. -/
def peek (history : SpanHistory) : Option Nat :=
  history.newestFirst.head?

/-- The start to go back to, the beginning of the document when nothing is left, and
    the history without it. -/
def pop (history : SpanHistory) : Nat × SpanHistory :=
  (history.peek.getD 0, history.drop)

/-- How many steps can be taken back. -/
def depth (history : SpanHistory) : Nat :=
  history.newestFirst.length

/-- Whether no step can be taken back. -/
def isEmpty (history : SpanHistory) : Bool :=
  history.newestFirst.isEmpty

/-- The starts in the order in which they were recorded. -/
def oldestFirst (history : SpanHistory) : List Nat :=
  history.newestFirst.reverse

/-- Recording makes a start the newest one. -/
theorem peek_push (history : SpanHistory) (start : Nat) :
    (history.push start).peek = some start := by
  obtain ⟨capacity, starts, positive, bounded⟩ := history
  cases capacity with
  | zero => exact absurd positive (Nat.lt_irrefl 0)
  | succ capacity => rfl

end SpanHistory

end Typeahead

import Typeahead.Proofs.Completion.Run

/-!
# Nested commits and reverts

A commit leaves the span behind and records where it began; a revert goes back to the
newest recorded start. Where every revert belongs to a commit before it, as brackets do,
reverts undo commits, as far as the bounded history remembers them.

`motions` reads a run as a word of commits, reverts and other events, and `Balanced` and
`nesting` are about such words alone. `balanced_run` follows the recursion of `Balanced`:
one commit costs the history its oldest entry if it is full, and a revert gives back the
start that the commit recorded, so that a word whose nesting the history can hold leaves
the span where it was and loses as many of the oldest starts as the bound forces out.
-/

namespace Typeahead.Completion

/-- What an event does to the span. -/
inductive Motion where
  /-- The span is left behind, and its start is recorded. -/
  | commits
  /-- A step is taken back. -/
  | reverts
  /-- The span stays where it is. -/
  | stays
  /-- The span moves in another way: the engine starts over, or a full pattern is closed
      by something other than a typed character. -/
  | strays
deriving Repr, DecidableEq

/-- What an event does to the span, given the state in which it happens. -/
def motion (completion : Completion) : Event → Motion
  | .replied .ok _ =>
    match completion.lastRequest with
    | some .revert => .reverts
    | some .start => .strays
    | some .reset => .strays
    | some .setCursor => .stays
    | _ => if completion.inRegex then .commits else .stays
  | .replied (.expanded _) cursor =>
    if completion.lastRequest = some .revert then .reverts
    else if cursor + 1 < completion.spanStart then .stays
    else .commits
  | .replied .regexFull _ => if completion.lastRequest = some .advance then .commits else .strays
  | _ => .stays

/-- What the events of a run do to the span, one after another. -/
def motions : Completion → List Event → List Motion
  | _, [] => []
  | completion, event :: rest => completion.motion event :: motions (completion.step event).1 rest

/-- What one event makes of the span and its history, apart from a stray. -/
inductive Moved (completion : Completion) : Motion → Completion → Prop where
  | commits (next : Completion)
      (history : next.history = completion.history.push completion.spanStart) :
      Moved completion .commits next
  | reverts (next : Completion) (span : next.spanStart = completion.history.pop.1)
      (history : next.history = completion.history.pop.2) : Moved completion .reverts next
  | stays (next : Completion) (span : next.spanStart = completion.spanStart)
      (history : next.history = completion.history) : Moved completion .stays next
  | strays (next : Completion) (capacity : next.history.capacity = completion.history.capacity) :
      Moved completion .strays next

/-- An acknowledgement moves the span as the latest request demands. -/
theorem ok_moved (completion : Completion) (cursor : Nat) :
    Moved completion (completion.motion (.replied .ok cursor))
      (completion.apply .ok cursor).1 := by
  simp only [motion, Completion.apply, respond]
  split
  case h_1 latest => simpa [latest] using .reverts _ rfl rfl
  case h_2 latest => simpa [latest, acknowledge] using .strays _ rfl
  case h_3 latest => simpa [latest, acknowledge] using .strays _ rfl
  case h_4 latest => simpa [latest, acknowledge] using .stays _ rfl rfl
  case h_5 notRevert notStart notReset notCursor =>
    simp only [if_neg notRevert, acknowledge]
    split
    case isTrue gathering => simpa [gathering] using .commits _ rfl
    case isFalse outside => simpa [outside] using .stays _ rfl rfl

/-- An expansion records the start of the span, unless it undoes a step or is passed over. -/
theorem expanded_moved (completion : Completion) (text : Text) (cursor : Nat) :
    Moved completion (completion.motion (.replied (.expanded text) cursor))
      (completion.apply (.expanded text) cursor).1 := by
  simp only [motion, Completion.apply, respond]
  split
  case isTrue => exact .reverts _ rfl rfl
  case isFalse =>
    simp only [expand]
    split
    case isTrue => exact .stays _ rfl rfl
    case isFalse => exact .commits _ rfl

/-- A full pattern records the start of the span when a typed character has filled it. -/
theorem regexFull_moved (completion : Completion) (cursor : Nat) :
    Moved completion (completion.motion (.replied .regexFull cursor))
      (completion.apply .regexFull cursor).1 := by
  simp only [motion, Completion.apply, respond, closeRegex]
  split
  case isTrue => exact .commits _ rfl
  case isFalse => exact .strays _ rfl

/-- Each event does to the span and the history what its motion says. -/
theorem step_moved (completion : Completion) (event : Event) :
    Moved completion (completion.motion event) (completion.step event).1 := by
  cases event with
  | sent request => exact .stays _ rfl rfl
  | expired => exact .stays _ rfl rfl
  | replied reply cursor =>
    cases reply with
    | ok => exact ok_moved completion cursor
    | expanded text => exact expanded_moved completion text cursor
    | regexFull => exact regexFull_moved completion cursor
    | error message => exact .stays _ rfl rfl
    | capabilities names => exact .stays _ rfl rfl
    | cursorHandle handle => exact .stays _ rfl rfl
    | invalidChar => exact .stays _ rfl rfl
    | regexStart => exact .stays _ rfl rfl

/-- No event changes how many starts the history keeps. -/
theorem step_capacity (completion : Completion) (event : Event) :
    (completion.step event).1.history.capacity = completion.history.capacity := by
  have moved := step_moved completion event
  generalize completion.motion event = motion at moved
  cases moved with
  | commits next history => rw [history]; rfl
  | reverts next span history => rw [history]; rfl
  | stays next span history => rw [history]
  | strays next capacity => exact capacity

/-- No run changes how many starts the history keeps. -/
theorem run_capacity (completion : Completion) (events : List Event) :
    (completion.run events).1.history.capacity = completion.history.capacity := by
  induction events generalizing completion with
  | nil => rfl
  | cons event rest inductionHypothesis =>
    exact (inductionHypothesis (completion.step event).1).trans (step_capacity completion event)

/-- A word over a run is that over a first part followed by that over the rest. -/
theorem motions_append (completion : Completion) (before later : List Event) :
    completion.motions (before ++ later) =
      completion.motions before ++ (completion.run before).1.motions later := by
  induction before generalizing completion with
  | nil => rfl
  | cons event rest inductionHypothesis =>
    exact congrArg _ (inductionHypothesis (completion.step event).1)

/-- Where a word over a run falls into two parts, so does the run. -/
theorem motions_eq_append {completion : Completion} {events : List Event}
    {before later : List Motion} (word : completion.motions events = before ++ later) :
    ∃ first second, events = first ++ second ∧ completion.motions first = before ∧
      (completion.run first).1.motions second = later := by
  induction before generalizing completion events with
  | nil => exact ⟨[], events, rfl, rfl, word⟩
  | cons motion rest inductionHypothesis =>
    cases events with
    | nil => exact nomatch word
    | cons event events =>
      obtain ⟨same, tail⟩ := List.cons.inj word
      obtain ⟨first, second, rfl, firstWord, secondWord⟩ := inductionHypothesis tail
      exact ⟨event :: first, second, rfl, by rw [motions, same, firstWord], secondWord⟩

/-- Where a word over a run begins with a motion, the run begins with an event that makes it. -/
theorem motions_eq_cons {completion : Completion} {events : List Event} {motion : Motion}
    {later : List Motion} (word : completion.motions events = motion :: later) :
    ∃ event rest, events = event :: rest ∧ completion.motion event = motion ∧
      (completion.step event).1.motions rest = later := by
  cases events with
  | nil => exact nomatch word
  | cons event rest => exact ⟨event, rest, rfl, (List.cons.inj word).1, (List.cons.inj word).2⟩

/-! ## Words of commits and reverts -/

/-- Every commit is taken back by a revert of its own, as brackets are closed, and the span
moves in no other way. -/
inductive Balanced : List Motion → Prop where
  | nothing : Balanced []
  | stay {rest : List Motion} (balanced : Balanced rest) : Balanced (.stays :: rest)
  | pair {inner rest : List Motion} (within : Balanced inner) (balanced : Balanced rest) :
      Balanced (.commits :: (inner ++ .reverts :: rest))

/-- How many commits are open after a motion. -/
def Motion.openAfter : Motion → Nat → Nat
  | .commits, level => level + 1
  | .reverts, level => level - 1
  | _, level => level

/-- The largest number of open commits reached along a word, `level` being open before it. -/
def mostOpen : Nat → List Motion → Nat
  | level, [] => level
  | level, motion :: rest => max level (mostOpen (motion.openAfter level) rest)

/-- How deep the commits of a word are nested. -/
def nesting (word : List Motion) : Nat :=
  mostOpen 0 word

/-- The commits that are open at the beginning count. -/
theorem le_mostOpen (level : Nat) (word : List Motion) : level ≤ mostOpen level word := by
  cases word with
  | nil => exact Nat.le_refl level
  | cons motion rest => exact Nat.le_max_left _ _

/-- A balanced word opens as many commits on top of those open before it as it opens by itself,
and leaves none of its own open. -/
theorem mostOpen_balanced {word : List Motion} (balanced : Balanced word) (level : Nat)
    (later : List Motion) :
    mostOpen level (word ++ later) = max (level + nesting word) (mostOpen level later) := by
  induction balanced generalizing level later with
  | nothing =>
    have reached := le_mostOpen level later
    simp only [List.nil_append, nesting, mostOpen]
    omega
  | @stay rest _ inductionHypothesis =>
    simp only [List.cons_append, nesting, mostOpen, Motion.openAfter, inductionHypothesis]
    omega
  | @pair inner rest _ _ inWithin inRest =>
    simp only [List.cons_append, List.append_assoc, nesting, mostOpen, Motion.openAfter,
      inWithin, inRest, Nat.zero_add, Nat.add_sub_cancel, Nat.sub_self]
    omega

/-- A pair nests one deeper than what is within it, and as deep as what follows. -/
theorem nesting_pair {inner : List Motion} (within : Balanced inner) (rest : List Motion) :
    nesting (.commits :: (inner ++ .reverts :: rest)) = max (nesting inner + 1) (nesting rest) := by
  simp only [nesting, mostOpen, Motion.openAfter, mostOpen_balanced within, Nat.zero_add,
    Nat.sub_self]
  omega

/-- What is reached along the end of a word is reached along the word. -/
theorem mostOpen_suffix (before : List Motion) (level : Nat) :
    ∃ start, ∀ later, mostOpen start later ≤ mostOpen level (before ++ later) := by
  induction before generalizing level with
  | nil => exact ⟨level, fun _ => Nat.le_refl _⟩
  | cons motion rest inductionHypothesis =>
    obtain ⟨start, reached⟩ := inductionHypothesis (motion.openAfter level)
    exact ⟨start, fun later => Nat.le_trans (reached later) (Nat.le_max_right _ _)⟩

/-- What a pair encloses is nested less deep than the word around it. -/
theorem nesting_within {inner : List Motion} (within : Balanced inner)
    (before later : List Motion) :
    nesting inner + 1 ≤ nesting (before ++ .commits :: (inner ++ later)) := by
  obtain ⟨start, reached⟩ := mostOpen_suffix before 0
  have open_within := reached (.commits :: (inner ++ later))
  simp only [mostOpen, Motion.openAfter, mostOpen_balanced within (start + 1) later] at open_within
  simp only [nesting] at open_within ⊢
  omega

/-- In a balanced word every revert has a commit before it that it closes. -/
theorem Balanced.matching {word : List Motion} (balanced : Balanced word)
    {before later : List Motion} (found : word = before ++ .reverts :: later) :
    ∃ outer inner, before = outer ++ .commits :: inner ∧ Balanced inner := by
  induction balanced generalizing before later with
  | nothing => exact absurd found (by simp)
  | stay _ inductionHypothesis =>
    cases before with
    | nil => exact nomatch found
    | cons motion before =>
      obtain ⟨outer, inner, rfl, within⟩ := inductionHypothesis (List.cons.inj found).2
      exact ⟨motion :: outer, inner, rfl, within⟩
  | @pair enclosed rest within _ inWithin inRest =>
    cases before with
    | nil => exact nomatch found
    | cons motion before =>
      obtain ⟨rfl, split⟩ := List.cons.inj found
      -- The revert is the one of the pair, or stands behind it, or stands within it.
      rcases List.append_eq_append_iff.mp split with ⟨between, rfl, tail⟩ | ⟨between, rfl, tail⟩
      · cases between with
        | nil => exact ⟨[], enclosed, by simp, within⟩
        | cons closing between =>
          obtain ⟨rfl, behind⟩ := List.cons.inj tail
          obtain ⟨outer, inner, rfl, inside⟩ := inRest behind
          exact ⟨.commits :: (enclosed ++ .reverts :: outer), inner, by simp, inside⟩
      · cases between with
        | nil => exact ⟨[], before, rfl, by simpa using within⟩
        | cons closing between =>
          obtain ⟨rfl, behind⟩ := List.cons.inj tail
          obtain ⟨outer, inner, rfl, inside⟩ := inWithin rfl
          exact ⟨.commits :: outer, inner, rfl, inside⟩

/-! ## Balanced runs -/

/-- A commit, a balanced run that leaves room for it, and a revert lead back to the span before
the commit, and cost the history what the bound forces out. -/
theorem pair_run {completion : Completion} {commit revert : Event} {enclosed : List Event}
    (commits : completion.motion commit = .commits)
    (reverts : ((completion.step commit).1.run enclosed).1.motion revert = .reverts)
    {lost : Nat} (room : lost + 1 ≤ completion.history.capacity)
    (within : ((completion.step commit).1.run enclosed).1.history.newestFirst =
      (completion.step commit).1.history.newestFirst.take (completion.history.capacity - lost)) :
    (((completion.step commit).1.run enclosed).1.step revert).1.spanStart = completion.spanStart ∧
      (((completion.step commit).1.run enclosed).1.step revert).1.history.newestFirst =
        completion.history.newestFirst.take (completion.history.capacity - (lost + 1)) := by
  have opened := step_moved completion commit
  rw [commits] at opened
  have closed := step_moved ((completion.step commit).1.run enclosed).1 revert
  rw [reverts] at closed
  generalize (completion.step commit).1 = inside at *
  generalize (inside.run enclosed).1 = last at *
  cases opened with
  | commits _ history =>
    cases closed with
    | reverts _ span popped =>
      -- The newest entry is the start of the span at the commit, since there is room for it.
      obtain ⟨spare, left⟩ := Nat.exists_eq_add_of_le room
      have kept : last.history.newestFirst =
          completion.spanStart :: completion.history.newestFirst.take spare := by
        rw [within, history]
        simp only [SpanHistory.push, List.take_take, left]
        rw [show min (lost + 1 + spare - lost) (lost + 1 + spare) = spare + 1 by omega,
          List.take_succ_cons]
      rw [span, popped, left, Nat.add_sub_cancel_left]
      simp only [SpanHistory.pop, SpanHistory.peek, SpanHistory.drop, kept, List.head?_cons,
        Option.getD_some, List.tail_cons, and_self]

/-- A balanced run that the history can hold leaves the span where it was, and of the starts
recorded before it the newest ones for which the deepest nesting leaves room. -/
theorem balanced_run {word : List Motion} (balanced : Balanced word) {completion : Completion}
    {events : List Event} (reads : completion.motions events = word)
    (room : nesting word ≤ completion.history.capacity) :
    (completion.run events).1.spanStart = completion.spanStart ∧
      (completion.run events).1.history.newestFirst =
        completion.history.newestFirst.take (completion.history.capacity - nesting word) := by
  induction balanced generalizing completion events with
  | nothing =>
    cases events with
    | nil => exact ⟨rfl, (List.take_of_length_le completion.history.bounded).symm⟩
    | cons event rest => exact nomatch reads
  | @stay rest _ inductionHypothesis =>
    obtain ⟨event, events, rfl, stays, reads⟩ := motions_eq_cons reads
    have moved := step_moved completion event
    rw [stays] at moved
    cases moved with
    | stays next span history =>
      have same : nesting (.stays :: rest) = nesting rest := Nat.max_eq_right (Nat.zero_le _)
      have later := inductionHypothesis reads (by rw [history]; exact same ▸ room)
      simp only [span, history, same] at later ⊢
      exact later
  | @pair inner rest within _ inWithin inRest =>
    obtain ⟨commit, events, rfl, commits, reads⟩ := motions_eq_cons reads
    obtain ⟨enclosed, events, rfl, enclosedReads, reads⟩ := motions_eq_append reads
    obtain ⟨revert, events, rfl, reverts, reads⟩ := motions_eq_cons reads
    rw [nesting_pair within] at room ⊢
    have insideCapacity := step_capacity completion commit
    have lastCapacity := (step_capacity _ revert).trans
      ((run_capacity _ enclosed).trans insideCapacity)
    have inside := inWithin enclosedReads (by omega)
    obtain ⟨span, starts⟩ := pair_run commits reverts (by omega) (insideCapacity ▸ inside.2)
    have later := inRest reads (by omega)
    rw [span, starts, lastCapacity, List.take_take] at later
    simp only [run, run_append]
    refine ⟨later.1, later.2.trans ?_⟩
    congr 1
    omega

/-- Every revert of a balanced run that the history can hold has a commit before it that it
closes, and it leads back to where the span began before that commit. -/
theorem balanced_revert {completion : Completion} {before after : List Event} {revert : Event}
    (balanced : Balanced (completion.motions (before ++ revert :: after)))
    (room : nesting (completion.motions (before ++ revert :: after)) ≤
      completion.history.capacity)
    (reverts : (completion.run before).1.motion revert = .reverts) :
    ∃ outer commit enclosed, before = outer ++ commit :: enclosed ∧
      (completion.run outer).1.motion commit = .commits ∧
      Balanced (((completion.run outer).1.step commit).1.motions enclosed) ∧
      ((completion.run before).1.step revert).1.spanStart = (completion.run outer).1.spanStart := by
  rw [motions_append, motions, reverts] at balanced room
  obtain ⟨outer, inner, word, within⟩ := balanced.matching rfl
  obtain ⟨outer, events, rfl, rfl, reads⟩ := motions_eq_append word
  obtain ⟨commit, enclosed, rfl, commits, reads⟩ := motions_eq_cons reads
  refine ⟨outer, commit, enclosed, rfl, commits, reads ▸ within, ?_⟩
  rw [word, List.append_assoc, List.cons_append] at room
  have nested := Nat.le_trans (nesting_within within _ _) room
  have opened := (step_capacity _ commit).trans (run_capacity completion outer)
  have inside := balanced_run (reads ▸ within) rfl (by rw [reads, opened]; omega)
  rw [reads, opened, ← run_capacity completion outer] at inside
  simp only [run_append, run] at reverts ⊢
  exact (pair_run commits reverts (by rw [run_capacity]; exact nested) inside.2).1

/-- Reverts undo the commits they belong to. In any state whose history keeps as many starts as
a given depth asks for, take a run that is balanced and nested no deeper than the history can
hold. The span is where it was; every revert went back to where the span began before its own
commit; and of the starts recorded before the run the history has lost none but the oldest ones
that the deepest nesting pushed out, which is none at all if they left room for it. -/
theorem balanced_run_undone (depth : Nat) {completion : Completion} {events : List Event}
    (sized : completion.history.capacity = max depth 1)
    (balanced : Balanced (completion.motions events))
    (room : nesting (completion.motions events) ≤ max depth 1) :
    (completion.run events).1.spanStart = completion.spanStart ∧
      (∀ before revert after, events = before ++ revert :: after →
        (completion.run before).1.motion revert = .reverts →
        ∃ outer commit enclosed, before = outer ++ commit :: enclosed ∧
          (completion.run outer).1.motion commit = .commits ∧
          Balanced (((completion.run outer).1.step commit).1.motions enclosed) ∧
          ((completion.run before).1.step revert).1.spanStart =
            (completion.run outer).1.spanStart) ∧
      (completion.run events).1.history.newestFirst =
        completion.history.newestFirst.take (max depth 1 - nesting (completion.motions events)) ∧
      (completion.history.depth + nesting (completion.motions events) ≤ max depth 1 →
        (completion.run events).1.history = completion.history) := by
  rw [← sized] at room ⊢
  obtain ⟨span, starts⟩ := balanced_run balanced rfl room
  refine ⟨span, ?_, starts, ?_⟩
  case refine_1 =>
    rintro before revert after rfl reverts
    exact balanced_revert balanced room reverts
  case refine_2 =>
    intro unforced
    rw [List.take_of_length_le (Nat.le_sub_of_add_le unforced)] at starts
    have capacity := run_capacity completion events
    generalize (completion.run events).1.history = history at starts capacity
    cases history
    simp only at starts capacity
    subst starts capacity
    rfl

/-- An expansion, a full step of a pattern and two reverts, with the requests between them. -/
def expandedThenGathered : List Event :=
  [.sent (.advance 'a'), .replied (.expanded ['x', 'y', 'z']) 5, .sent (.advance 'b'),
    .replied .regexStart 8, .sent (.advance 'c'), .replied .ok 9, .sent .revert, .replied .ok 11,
    .replied (.expanded []) 9]

/-- The two reverts close the two commits, the second of which stands within the first. -/
theorem expandedThenGathered_balanced :
    Balanced ((withSpan 3 4 [1, 3]).motions expandedThenGathered) :=
  .stay (.pair (.stay (.stay (.stay (.pair (.stay .nothing) .nothing)))) .nothing)

/-- Two nested commits push the older of two recorded starts out of a history for three, and the
newer one is what the reverts leave. -/
theorem expandedThenGathered_undone :
    nesting ((withSpan 3 4 [1, 3]).motions expandedThenGathered) = 2 ∧
      ((withSpan 3 4 [1, 3]).run expandedThenGathered).1.spanStart = 4 ∧
      ((withSpan 3 4 [1, 3]).run expandedThenGathered).1.history.newestFirst = [3] := by
  have undone := balanced_run_undone 3 rfl expandedThenGathered_balanced (by decide)
  exact ⟨by decide, undone.1, undone.2.2.1.trans (by decide)⟩

end Typeahead.Completion

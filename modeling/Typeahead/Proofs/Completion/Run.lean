import Typeahead.Completion.Basic

/-!
# Runs of the completion state

A run is any sequence of requests going out, replies coming in and waits given up;
`run` gives the state after it and all edits it asks for. `Answered` lists what a reply
can do to the span and its history, and `respond_answered` says that it does nothing
else. Statements about every reply of a run use `Throughout`, which meets each event in
the state in which it happens.
-/

namespace Typeahead.Completion

/-- What happens to the completion of a document. -/
inductive Event where
  /-- A request goes out. -/
  | sent (request : Request)
  /-- A reply comes in while the cursor stands there. -/
  | replied (reply : Reply) (cursor : Nat)
  /-- The wait for a reply is given up. -/
  | expired
deriving Repr, DecidableEq

/-- The state after one event and the edits that it asks for. -/
def step (completion : Completion) : Event → Completion × List Effect
  | .sent request => (completion.sent request, [])
  | .replied reply cursor => completion.apply reply cursor
  | .expired => (completion.expireWait, [])

/-- The state after a run and the edits that it asks for, in order. -/
def run : Completion → List Event → Completion × List Effect
  | completion, [] => (completion, [])
  | completion, event :: rest =>
    let (next, effects) := completion.step event
    let (last, later) := run next rest
    (last, effects ++ later)

/-- Every event of a run is as required, in the state in which it happens. -/
def Throughout (required : Completion → Event → Prop) : Completion → List Event → Prop
  | _, [] => True
  | completion, event :: rest =>
    required completion event ∧ Throughout required (completion.step event).1 rest

/-- A run is its first part, and then the rest from where that part leads. -/
theorem run_append (completion : Completion) (before later : List Event) :
    completion.run (before ++ later) =
      (((completion.run before).1.run later).1,
        (completion.run before).2 ++ ((completion.run before).1.run later).2) := by
  induction before generalizing completion with
  | nil => rfl
  | cons event rest inductionHypothesis =>
    simp only [List.cons_append, run, inductionHypothesis, List.append_assoc]

/-- The edits of a run are those of its first event and those of the rest. -/
theorem forall_run_cons (completion : Completion) (event : Event) (rest : List Event)
    (holds : Effect → Prop) :
    (∀ effect ∈ (completion.run (event :: rest)).2, holds effect) ↔
      (∀ effect ∈ (completion.step event).2, holds effect) ∧
        ∀ effect ∈ ((completion.step event).1.run rest).2, holds effect := by
  simp only [run, List.mem_append, or_imp, forall_and]

/-- Whether a reply says that a request was carried out. -/
def Acknowledges (reply : Reply) : Prop :=
  reply = .ok ∨ ∃ text, reply = .expanded text

/-- A reply counts as the acknowledgement of a revert. -/
def TakesBack (completion : Completion) (reply : Reply) : Prop :=
  Acknowledges reply ∧ completion.lastRequest = some .revert

/-- What a reply can do, by the request sent last. -/
inductive Answered (completion : Completion) (reply : Reply) (cursor : Nat) :
    Completion × List Effect → Prop where
  /-- A step is taken back. -/
  | takenBack (takes : completion.TakesBack reply) :
      Answered completion reply cursor (completion.revert cursor)
  /-- The engine started over. -/
  | restarted (ok : reply = .ok)
      (latest : completion.lastRequest = some .start ∨ completion.lastRequest = some .reset) :
      Answered completion reply cursor (completion.restart cursor, [])
  /-- Inside a pattern the span is left behind. -/
  | moved (ok : reply = .ok) (gathering : completion.inRegex = true)
      (latest : completion.lastRequest ∉
        [some .revert, some .start, some .reset, some .setCursor]) :
      Answered completion reply cursor (completion.moveSpan cursor, [])
  /-- The pattern is full. -/
  | closed (full : reply = .regexFull) :
      Answered completion reply cursor (completion.closeRegex cursor)
  /-- Text takes the place of the span. -/
  | expanded (text : Text) (brings : reply = .expanded text)
      (latest : completion.lastRequest ≠ some .revert) :
      Answered completion reply cursor (completion.expand text cursor)
  /-- Span and history stay, and no edit goes by them. -/
  | stayed (next : Completion) (effects : List Effect)
      (span : next.spanStart = completion.spanStart) (history : next.history = completion.history)
      (sameLatest : next.lastRequest = completion.lastRequest)
      (notFull : reply ≠ .regexFull) (noText : ∀ text, reply ≠ .expanded text)
      (keeps : ¬ completion.TakesBack reply)
      (edits : ∀ effect ∈ effects,
        (∃ message, effect = .showError message) ∨ effect = .delete cursor (cursor + 1)) :
      Answered completion reply cursor (next, effects)

/-- A reply that acknowledges nothing takes no step back. -/
theorem not_takesBack (completion : Completion) (reply : Reply) (other : ¬ Acknowledges reply) :
    ¬ completion.TakesBack reply :=
  fun takes => other takes.1

/-- A reply does one of these things, whatever the state. -/
theorem respond_answered (completion : Completion) (reply : Reply) (cursor : Nat) :
    Answered completion reply cursor (completion.respond reply cursor) := by
  cases reply with
  | ok =>
    by_cases reverting : completion.lastRequest = some .revert
    · simp only [respond, reverting, if_true]
      exact .takenBack ⟨.inl rfl, reverting⟩
    · simp only [respond, reverting, if_false, acknowledge]
      split
      case h_1 latest => exact .restarted rfl (.inl latest)
      case h_2 latest => exact .restarted rfl (.inr latest)
      case h_3 => exact .stayed _ _ rfl rfl rfl (by simp) (by simp) (reverting ·.2) (by simp)
      case h_4 notStart notReset notCursor =>
        split
        case isTrue gathering =>
          refine .moved rfl gathering ?_
          simp only [List.mem_cons, List.not_mem_nil, or_false, not_or]
          exact ⟨reverting, notStart, notReset, notCursor⟩
        case isFalse => exact .stayed _ _ rfl rfl rfl (by simp) (by simp) (reverting ·.2) (by simp)
  | error message =>
    exact .stayed _ _ rfl rfl rfl (by simp) (by simp)
      (not_takesBack _ _ (by simp [Acknowledges])) (by simp)
  | regexFull => exact .closed rfl
  | capabilities names =>
    exact .stayed _ _ rfl rfl rfl (by simp) (by simp)
      (not_takesBack _ _ (by simp [Acknowledges])) (by simp)
  | cursorHandle handle =>
    exact .stayed _ _ rfl rfl rfl (by simp) (by simp)
      (not_takesBack _ _ (by simp [Acknowledges])) (by simp)
  | invalidChar =>
    exact .stayed _ _ rfl rfl rfl (by simp) (by simp)
      (not_takesBack _ _ (by simp [Acknowledges])) (by simp)
  | regexStart =>
    exact .stayed _ _ rfl rfl rfl (by simp) (by simp)
      (not_takesBack _ _ (by simp [Acknowledges])) (by simp)
  | expanded text =>
    by_cases reverting : completion.lastRequest = some .revert
    · simp only [respond, reverting, if_true]
      exact .takenBack ⟨.inr ⟨text, rfl⟩, reverting⟩
    · simp only [respond, reverting, if_false]
      exact .expanded text rfl reverting

/-- A reply asks for one effect at most. -/
theorem apply_effects_le (completion : Completion) (reply : Reply) (cursor : Nat) :
    (completion.apply reply cursor).2.length ≤ 1 := by
  unfold apply respond
  cases reply with
  | ok =>
    simp only
    split
    · simp only [revert]
      split <;> simp
    · simp
  | expanded text =>
    simp only
    split
    · simp only [revert]
      split <;> simp
    · simp only [expand]
      split <;> simp
  | _ => simp [closeRegex]

end Typeahead.Completion

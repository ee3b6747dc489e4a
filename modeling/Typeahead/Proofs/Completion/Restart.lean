import Typeahead.Proofs.Completion.Run

/-!
# What stands before a restart

When the engine starts over, the span begins at the cursor and nothing is left to go back
to, so that no later edit should reach text before that point. One way back remains: a
revert with no recorded start leads to the beginning of the document, and a reply that then
works on the span edits from there. `restart_confines_iff` says that this is the only way:
after a restart at a cursor other than 0, the edits of a run all lie at or after it exactly
if no reply works on a span that begins at offset 0; and a run without a revert beyond the
recorded starts is always confined.
-/

namespace Typeahead

/-- The offset at which an edit begins, if the effect is an edit. -/
def Effect.offset? : Effect → Option Nat
  | .replace start _ _ => some start
  | .insert offset _ => some offset
  | .delete start _ => some start
  | .showError _ => none

/-- An edit that leaves everything before `bound` alone, or no edit at all. -/
def Effect.LiesFrom (bound : Nat) (effect : Effect) : Prop :=
  ∀ offset, effect.offset? = some offset → bound ≤ offset

namespace Completion

/-- A request that makes the engine start over. -/
def Restarts (request : Request) : Prop :=
  request.kind = .start ∨ request.kind = .reset

/-- What may happen after a restart at `bound`: no further restart is asked for, and the cursor
stays at or after that point. -/
def Event.After (bound : Nat) : Event → Prop
  | .sent request => ¬ Restarts request
  | .replied _ cursor => bound ≤ cursor
  | .expired => True

/-- A reply that edits the document from the start of the span on. -/
def WorksOnSpan (completion : Completion) (reply : Reply) : Prop :=
  completion.TakesBack reply ∨ (∃ text, reply = .expanded text) ∨
    (reply = .regexFull ∧ completion.lastRequest ≠ some .advance)

/-- A reply works on a span that begins with the document. -/
def WorksFromTop (completion : Completion) : Event → Prop
  | .replied reply _ => completion.spanStart = 0 ∧ completion.WorksOnSpan reply
  | _ => False

/-- A step is taken back though no start is recorded. -/
def GoesBeyond (completion : Completion) : Event → Prop
  | .replied reply _ => completion.history.newestFirst = [] ∧ completion.TakesBack reply
  | _ => False

/-- The start of the span and all starts behind it are as required. -/
def AllStarts (required : Nat → Prop) (completion : Completion) : Prop :=
  ∀ start ∈ completion.spanStart :: completion.history.newestFirst, required start

section Starts

variable {required : Nat → Prop} {completion : Completion}

/-- Recording the present start keeps all starts as required. -/
theorem AllStarts.push (starts : completion.AllStarts required) :
    ∀ start ∈ (completion.history.push completion.spanStart).newestFirst, required start := by
  intro start member
  exact starts start (List.mem_of_mem_take member)

/-- Going back leads to a start as required, unless none is recorded. -/
theorem AllStarts.pop (starts : completion.AllStarts required)
    (top : completion.history.newestFirst = [] → required 0) :
    ∀ start ∈ completion.history.pop.1 :: completion.history.pop.2.newestFirst, required start := by
  intro start member
  simp only [SpanHistory.pop, SpanHistory.peek, SpanHistory.drop, List.mem_cons] at member
  cases recorded : completion.history.newestFirst with
  | nil =>
    simp only [recorded, List.head?_nil, Option.getD_none, List.tail_nil, List.not_mem_nil,
      or_false] at member
    exact member ▸ top recorded
  | cons newest rest =>
    simp only [recorded, List.head?_cons, Option.getD_some, List.tail_cons] at member
    apply starts start
    rw [recorded]
    exact List.mem_cons_of_mem _ (List.mem_cons.mpr member)

/-- One reply keeps all starts as required, if the places to which the span can move are: at or
behind the cursor, behind the present start when the reply works on the span, and the beginning
of the document when a revert goes beyond the recorded starts. -/
theorem AllStarts.apply (starts : completion.AllStarts required) (reply : Reply) (cursor : Nat)
    (atCursor : ∀ further, required (cursor + further))
    (atSpan : completion.WorksOnSpan reply →
      ∀ further, required (completion.spanStart + further))
    (atTop : completion.GoesBeyond (.replied reply cursor) → required 0) :
    (completion.apply reply cursor).1.AllStarts required := by
  have answered := respond_answered completion reply cursor
  simp only [Completion.apply, AllStarts, expireWait]
  generalize completion.respond reply cursor = outcome at answered ⊢
  cases answered with
  | takenBack takes => exact starts.pop fun empty => atTop ⟨empty, takes⟩
  | restarted ok latest =>
    simpa [restart, SpanHistory.clear] using atCursor 0
  | moved ok gathering latest =>
    intro start member
    rcases List.mem_cons.mp member with same | recorded
    · exact same ▸ atCursor 0
    · exact starts.push start recorded
  | closed full =>
    intro start member
    by_cases typed : completion.lastRequest = some .advance
    · simp only [closeRegex, typed, if_true, moveSpan] at member
      rcases List.mem_cons.mp member with same | recorded
      · exact same ▸ atCursor 1
      · exact starts.push start recorded
    · simp only [closeRegex, typed, if_false] at member
      rcases List.mem_cons.mp member with same | recorded
      · exact same ▸ atSpan (.inr (.inr ⟨full, typed⟩)) 1
      · exact starts start (List.mem_cons_of_mem _ recorded)
  | expanded text brings latest =>
    intro start member
    by_cases past : cursor + 1 < completion.spanStart
    · simp only [expand, past, if_true] at member
      exact starts start member
    · simp only [expand, past, if_false] at member
      rcases List.mem_cons.mp member with same | recorded
      · exact same ▸ atSpan (.inr (.inl ⟨text, brings⟩)) text.length
      · exact starts.push start recorded
  | stayed next effects span history =>
    simp only [span, history]
    exact starts

end Starts

/-- A start that a restart at `bound` or a revert beyond the recorded starts left behind. -/
def Grounded (bound : Nat) (start : Nat) : Prop :=
  bound ≤ start ∨ start = 0

/-- The edits of one reply lie at or after the restart exactly if the reply does not work on a
span that begins with the document.

Only replies that work on the span edit at its start, and that start lies at or after the restart
or is 0. All other edits are made at the cursor. -/
theorem apply_lies_from_iff (completion : Completion) (reply : Reply) (bound cursor : Nat)
    (positive : 0 < bound) (behind : bound ≤ cursor)
    (starts : completion.AllStarts (Grounded bound)) :
    (∀ effect ∈ (completion.apply reply cursor).2, effect.LiesFrom bound) ↔
      ¬ completion.WorksFromTop (.replied reply cursor) := by
  have atStart : bound ≤ completion.spanStart ↔ completion.spanStart ≠ 0 := by
    rcases starts completion.spanStart List.mem_cons_self with beyond | top <;> omega
  have answered := respond_answered completion reply cursor
  simp only [Completion.apply, WorksFromTop]
  generalize completion.respond reply cursor = outcome at answered ⊢
  cases answered with
  | takenBack takes =>
    have works : completion.WorksOnSpan reply := .inl takes
    by_cases nonempty : completion.spanStart < cursor
    · simp [revert, nonempty, Effect.LiesFrom, Effect.offset?, works, atStart]
    · simp [revert, nonempty, works]
      omega
  | restarted ok latest =>
    have idle : ¬ completion.WorksOnSpan reply := by
      rcases latest with latest | latest <;> simp [WorksOnSpan, TakesBack, ok, latest]
    simp [idle]
  | moved ok gathering latest =>
    have idle : ¬ completion.WorksOnSpan reply := by
      simp only [List.mem_cons, not_or] at latest
      simp [WorksOnSpan, TakesBack, ok, latest]
    simp [idle]
  | closed full =>
    by_cases typed : completion.lastRequest = some .advance
    · have idle : ¬ completion.WorksOnSpan reply := by
        simp [WorksOnSpan, TakesBack, full, typed]
      simp [closeRegex, typed, moveSpan, Effect.LiesFrom, Effect.offset?, idle, behind]
    · have works : completion.WorksOnSpan reply := .inr (.inr ⟨full, typed⟩)
      simp [closeRegex, typed, Effect.LiesFrom, Effect.offset?, works, atStart]
  | expanded text brings latest =>
    have works : completion.WorksOnSpan reply := .inr (.inl ⟨text, brings⟩)
    by_cases past : cursor + 1 < completion.spanStart
    · simp [expand, past, works]
      omega
    · simp [expand, past, Effect.LiesFrom, Effect.offset?, works, atStart]
  | stayed next effects span history sameLatest notFull noText keeps edits =>
    have idle : ¬ completion.WorksOnSpan reply := by
      simp [WorksOnSpan, keeps, notFull, noText]
    simp only [idle, and_false, not_false_eq_true, iff_true]
    intro effect member offset same
    rcases edits effect member with ⟨message, rfl⟩ | rfl
    · simp [Effect.offset?] at same
    · simp only [Effect.offset?, Option.some.injEq] at same
      omega

/-- Apart from the events that may follow a restart, nothing changes where the span can begin. -/
theorem AllStarts.step {required : Nat → Prop} {completion : Completion}
    (starts : completion.AllStarts required) (event : Event) (bound : Nat)
    (after : event.After bound) (behind : ∀ start, bound ≤ start → required start)
    (atSpan : ∀ reply cursor, event = .replied reply cursor → completion.WorksOnSpan reply →
      bound ≤ completion.spanStart)
    (atTop : completion.GoesBeyond event → required 0) :
    (completion.step event).1.AllStarts required := by
  cases event with
  | sent request => exact starts
  | expired => exact starts
  | replied reply cursor =>
    refine starts.apply reply cursor (fun further => ?_) (fun works further => ?_) atTop
    · exact behind _ (Nat.le_add_right_of_le after)
    · exact behind _ (Nat.le_add_right_of_le (atSpan reply cursor rfl works))

/-- From grounded starts on, the edits of a run are confined exactly if none of its replies works
on a span that begins with the document.

The first reply that does so breaks the confinement at once. As long as there is none, a reply
that works on the span finds its start at or after the bound, so all starts remain grounded. -/
theorem run_lies_from_iff (completion : Completion) (bound : Nat) (events : List Event)
    (positive : 0 < bound) (after : ∀ event ∈ events, event.After bound)
    (starts : completion.AllStarts (Grounded bound)) :
    (∀ effect ∈ (completion.run events).2, effect.LiesFrom bound) ↔
      completion.Throughout (fun state event => ¬ state.WorksFromTop event) events := by
  induction events generalizing completion with
  | nil => simp [run, Throughout]
  | cons event rest inductionHypothesis =>
    have first : event.After bound := after event List.mem_cons_self
    have here : (∀ effect ∈ (completion.step event).2, effect.LiesFrom bound) ↔
        ¬ completion.WorksFromTop event := by
      cases event with
      | sent request => simp [step, WorksFromTop]
      | expired => simp [step, WorksFromTop]
      | replied reply cursor =>
        exact apply_lies_from_iff completion reply bound cursor positive first starts
    rw [forall_run_cons, here, Throughout]
    refine and_congr_right fun idle => ?_
    apply inductionHypothesis _ fun later member => after later (List.mem_cons_of_mem _ member)
    refine starts.step event bound first (fun start beyond => .inl beyond) ?_ fun _ => .inr rfl
    rintro reply cursor rfl works
    rcases starts completion.spanStart List.mem_cons_self with beyond | top
    · exact beyond
    · exact absurd ⟨top, works⟩ idle

/-- Without a revert beyond the recorded starts every start stays at or after the bound, so no
reply finds a span that begins with the document. -/
theorem throughout_of_not_beyond (completion : Completion) (bound : Nat) (events : List Event)
    (positive : 0 < bound) (after : ∀ event ∈ events, event.After bound)
    (starts : completion.AllStarts (bound ≤ ·))
    (within : completion.Throughout (fun state event => ¬ state.GoesBeyond event) events) :
    completion.Throughout (fun state event => ¬ state.WorksFromTop event) events := by
  induction events generalizing completion with
  | nil => trivial
  | cons event rest inductionHypothesis =>
    obtain ⟨here, later⟩ := within
    have start : bound ≤ completion.spanStart := starts _ List.mem_cons_self
    refine ⟨?_, inductionHypothesis _ (fun other member => ?_) ?_ later⟩
    · cases event with
      | sent request => exact id
      | expired => exact id
      | replied reply cursor =>
        rintro ⟨top, _⟩
        omega
    · exact after other (List.mem_cons_of_mem _ member)
    · exact starts.step event bound (after event List.mem_cons_self) (fun _ beyond => beyond)
        (fun _ _ _ _ => start) fun beyond => absurd beyond here

/-- An acknowledged restart leaves one start, the cursor. -/
theorem restart_starts (completion : Completion) (request : Request) (restarts : Restarts request)
    (bound : Nat) (required : Nat → Prop) (holds : required bound) :
    ((completion.sent request).apply .ok bound).1.AllStarts required := by
  have restarted : ((completion.sent request).respond .ok bound).1 =
      (completion.sent request).restart bound := by
    rcases restarts with kind | kind <;> simp [respond, sent, acknowledge, kind]
  simp only [Completion.apply, AllStarts, expireWait, restarted]
  simpa [restart, SpanHistory.clear] using holds

/-- After the engine has started over with the cursor at `bound`, the edits of a run all lie at or
after `bound` exactly if that is the beginning of the document or no reply works on a span that
begins there. A run in which no revert goes beyond the starts recorded since is confined. -/
theorem restart_confines_iff (completion : Completion) (request : Request)
    (restarts : Restarts request) (bound : Nat) (events : List Event)
    (after : ∀ event ∈ events, event.After bound) :
    let started := ((completion.sent request).apply .ok bound).1
    ((∀ effect ∈ (started.run events).2, effect.LiesFrom bound) ↔
        bound = 0 ∨ started.Throughout (fun state event => ¬ state.WorksFromTop event) events) ∧
      (started.Throughout (fun state event => ¬ state.GoesBeyond event) events →
        ∀ effect ∈ (started.run events).2, effect.LiesFrom bound) := by
  intro started
  rcases Nat.eq_zero_or_pos bound with top | positive
  · have confined : ∀ effect ∈ (started.run events).2, effect.LiesFrom bound :=
      fun _ _ offset _ => top ▸ Nat.zero_le offset
    exact ⟨⟨fun _ => .inl top, fun _ => confined⟩, fun _ => confined⟩
  · have grounded := restart_starts completion request restarts bound (Grounded bound)
      (.inl (Nat.le_refl bound))
    have behind := restart_starts completion request restarts bound (bound ≤ ·) (Nat.le_refl bound)
    have confined_iff := run_lies_from_iff started bound events positive after grounded
    refine ⟨?_, fun within => confined_iff.mpr ?_⟩
    · rw [confined_iff, or_iff_right (Nat.ne_of_gt positive)]
    · exact throughout_of_not_beyond started bound events positive after behind within

/-- A character is typed and expanded, and the expansion is taken back. -/
def expansionTakenBack : List Event :=
  [.sent (.advance 'p'), .replied (.expanded ['p', 'r']) 5, .sent .revert, .replied .ok 7]

/-- An expansion taken back behind a restart in the middle of a document leaves the text before that
point alone. -/
theorem restart_confines_expansion :
    Restarts .reset ∧ (∀ event ∈ expansionTakenBack, event.After 5) ∧
      ∀ effect ∈ ((((ofDepth 4).sent .reset).apply .ok 5).1.run expansionTakenBack).2,
        effect.LiesFrom 5 := by
  have restarts : Restarts .reset := .inr rfl
  have after : ∀ event ∈ expansionTakenBack, event.After 5 := by
    simp [expansionTakenBack, Event.After, Restarts, Request.kind]
  refine ⟨restarts, after, (restart_confines_iff (ofDepth 4) .reset restarts 5 _ after).2 ?_⟩
  refine ⟨id, ?_, id, ?_, trivial⟩
  · rintro ⟨_, _, latest⟩
    exact absurd latest (by decide)
  · rintro ⟨empty, _⟩
    exact absurd empty (by decide)

/-- Two reverts right behind a restart delete the document up to the cursor: the first one leads
to the beginning of the document, and the second one deletes from there. -/
theorem restart_does_not_confine :
    ¬ ∀ (completion : Completion) (request : Request), Restarts request →
      ∀ (bound : Nat) (events : List Event), (∀ event ∈ events, event.After bound) →
        ∀ effect ∈ (((completion.sent request).apply .ok bound).1.run events).2,
          effect.LiesFrom bound := by
  intro confined
  have deleted : .delete 0 5 ∈ ((((ofDepth 8).sent .reset).apply .ok 5).1.run
      [.sent .revert, .replied .ok 5, .sent .revert, .replied .ok 5]).2 := by decide
  have after : ∀ event ∈ [.sent .revert, .replied .ok 5, .sent .revert, .replied .ok 5],
      Event.After 5 event := by
    simp [Event.After, Restarts, Request.kind]
  have beyond := confined (ofDepth 8) .reset (.inr rfl) 5 _ after _ deleted 0 rfl
  exact absurd beyond (by decide)

end Completion

end Typeahead

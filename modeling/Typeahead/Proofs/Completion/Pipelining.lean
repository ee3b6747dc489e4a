import Typeahead.Proofs.Completion.Run
import Typeahead.Session.Basic

/-!
# Replies while several requests are out

The engine answers requests in the order in which they were sent, and more of them may be
sent before the first answer comes. `moments` follows a run with the requests still
unanswered and records every reply together with the request that it answers.

The completion state remembers only the request sent last, so an acknowledgement undoes a
step exactly if that one is a revert. `lawful_iff` says when this is right: the request
answered and the request sent last must both be reverts or both be something else. It is so
whenever nothing waits behind the request answered. It is not so when text is replaced:
`replacement_undoes_nothing` shows that then no revert is carried out.
-/

namespace Typeahead.Completion

/-- A reply undoes one step, wherever the span stands and whatever lies behind it: the span is
deleted up to the cursor, and the newest recorded start is active again. -/
def UndoesStep (completion : Completion) (reply : Reply) : Prop :=
  ∀ (spanStart : Nat) (history : SpanHistory) (cursor : Nat),
    ({ completion with spanStart, history }).respond reply cursor =
      ({ completion with spanStart, history }).revert cursor

/-- A reply undoes steps exactly if it acknowledges a revert sent last. No other reply deletes the
span up to the cursor, which shows where the span is not empty. -/
theorem undoesStep_iff (completion : Completion) (reply : Reply) :
    completion.UndoesStep reply ↔ completion.TakesBack reply := by
  constructor
  · intro undoes
    have same := undoes 0 completion.history 1
    have answered := respond_answered { completion with spanStart := 0 } reply 1
    rw [same] at answered
    have deleted : ({ completion with spanStart := 0 }).revert 1 =
        ((({ completion with spanStart := 0 }).revert 1).1, [.delete 0 1]) := rfl
    generalize ({ completion with spanStart := 0 }).revert 1 = outcome at answered deleted
    cases answered with
    | takenBack takes => exact takes
    | restarted ok latest => simp at deleted
    | moved ok gathering latest => simp at deleted
    | closed full => simp [closeRegex] at deleted
    | expanded text brings latest => simp [expand] at deleted
    | stayed next effects span history sameLatest notFull noText keeps edits =>
      have only : effects = [.delete 0 1] := (Prod.mk.inj deleted).2
      have impossible := edits (.delete 0 1) (by simp [only])
      simp at impossible
  · rintro ⟨ok | ⟨text, brings⟩, latest⟩ spanStart history cursor
    · simp [respond, ok, latest]
    · simp [respond, brings, latest]

/-- A reply of a run, in the state in which it comes, with the request that it answers and those
sent behind that one. -/
structure Moment where
  completion : Completion
  answered : Request
  waiting : List Request
  reply : Reply
deriving Repr, DecidableEq

/-- The request sent last. -/
def Moment.latest (moment : Moment) : Request :=
  (moment.answered :: moment.waiting).getLast (List.cons_ne_nil _ _)

/-- The reply undoes a step exactly if it acknowledges a revert. -/
def Moment.Lawful (moment : Moment) : Prop :=
  moment.completion.UndoesStep moment.reply ↔
    Acknowledges moment.reply ∧ moment.answered = .revert

/-- The replies of a run that begins with these requests unanswered. A reply answers the oldest of
them; the engine has nothing to say when there is none. -/
def moments : Completion → List Request → List Event → List Moment
  | _, _, [] => []
  | completion, unanswered, .sent request :: rest =>
    moments (completion.sent request) (unanswered ++ [request]) rest
  | completion, unanswered, .expired :: rest => moments completion.expireWait unanswered rest
  | completion, [], .replied _ _ :: rest => moments completion [] rest
  | completion, answered :: waiting, .replied reply cursor :: rest =>
    ⟨completion, answered, waiting, reply⟩ ::
      moments (completion.apply reply cursor).1 waiting rest

/-- A reply leaves it as it is which request was sent last. -/
theorem apply_lastRequest (completion : Completion) (reply : Reply) (cursor : Nat) :
    (completion.apply reply cursor).1.lastRequest = completion.lastRequest := by
  have answered := respond_answered completion reply cursor
  simp only [Completion.apply, expireWait]
  generalize completion.respond reply cursor = outcome at answered ⊢
  cases answered with
  | takenBack takes => rfl
  | restarted ok latest => rfl
  | moved ok gathering latest => rfl
  | closed full => simp only [closeRegex]; split <;> rfl
  | expanded text brings latest => simp only [expand]; split <;> rfl
  | stayed next effects span history sameLatest => exact sameLatest

/-- While a request is unanswered, the newest of them is the request remembered.

A request sent becomes the newest one. A reply takes away the oldest one, which is the newest
only if nothing is left. -/
theorem moments_latest (completion : Completion) (unanswered : List Request) (events : List Event)
    (remembered : ∀ newest ∈ unanswered.getLast?, completion.lastRequest = some newest.kind) :
    ∀ moment ∈ completion.moments unanswered events,
      moment.completion.lastRequest = some moment.latest.kind := by
  induction events generalizing completion unanswered with
  | nil => simp [moments]
  | cons event rest inductionHypothesis =>
    cases event with
    | sent request =>
      apply inductionHypothesis
      simp [sent]
    | expired => exact inductionHypothesis _ _ remembered
    | replied reply cursor =>
      cases unanswered with
      | nil => exact inductionHypothesis _ _ (by simp)
      | cons answered waiting =>
        intro moment member
        rcases List.mem_cons.mp member with rfl | later
        · exact remembered _ (by simp [Moment.latest, List.getLast?_eq_some_getLast])
        · refine inductionHypothesis _ _ ?_ moment later
          intro newest last
          rw [apply_lastRequest]
          apply remembered newest
          cases waiting with
          | nil => simp at last
          | cons next others => simpa using last

/-- The kind of a request tells the reverts. -/
theorem kind_eq_revert_iff (request : Request) : request.kind = .revert ↔ request = .revert := by
  cases request <;> simp [Request.kind]

/-- In every run and for every reply of it: the reply is dealt with as the request that it answers
demands exactly if it acknowledges nothing, or the request answered and the request sent last
agree in being a revert. They agree when no other request waits. -/
theorem lawful_iff (completion : Completion) (events : List Event) :
    ∀ moment ∈ completion.moments [] events,
      (moment.Lawful ↔
        (Acknowledges moment.reply → (moment.answered = .revert ↔ moment.latest = .revert))) ∧
      (moment.waiting = [] → moment.Lawful) := by
  intro moment member
  have remembered := moments_latest completion [] events (by simp) moment member
  have agreeing : moment.Lawful ↔
      (Acknowledges moment.reply → (moment.answered = .revert ↔ moment.latest = .revert)) := by
    rw [Moment.Lawful, undoesStep_iff, TakesBack, remembered, Option.some.injEq,
      kind_eq_revert_iff]
    constructor
    · intro lawful acknowledges
      simpa [acknowledges, iff_comm] using lawful
    · intro agree
      exact and_congr_right fun acknowledges => (agree acknowledges).symm
  refine ⟨agreeing, fun alone => agreeing.mpr fun _ => ?_⟩
  simp [Moment.latest, alone]

/-- The answers to two reverts sent at once each undo one step, since the request sent last is a
revert as well. -/
theorem lawful_two_reverts :
    ⟨((ofDepth 4).sent .revert).sent .revert, .revert, [.revert], .ok⟩ ∈
        (ofDepth 4).moments [] [.sent .revert, .sent .revert, .replied .ok 3, .replied .ok 2] ∧
      Moment.Lawful ⟨((ofDepth 4).sent .revert).sent .revert, .revert, [.revert], .ok⟩ := by
  have member : ⟨((ofDepth 4).sent .revert).sent .revert, .revert, [.revert], .ok⟩ ∈
      (ofDepth 4).moments [] [.sent .revert, .sent .revert, .replied .ok 3, .replied .ok 2] := by
    decide
  exact ⟨member, (lawful_iff (ofDepth 4) _ _ member).1.mpr fun _ => by decide⟩

/-- A character typed in the place of another one sends a revert and an advance. The revert is
acknowledged when the advance is already out, and no step is undone. -/
theorem replaced_character_not_undone :
    ¬ ∀ (completion : Completion) (events : List Event),
      ∀ moment ∈ completion.moments [] events, moment.Lawful := by
  intro lawful
  have member : ⟨((ofDepth 4).sent .revert).sent (.advance 'x'), .revert, [.advance 'x'], .ok⟩ ∈
      (ofDepth 4).moments []
        ((Session.requestsFor ⟨6, 1, ['x']⟩).map .sent ++ [.replied .ok 6, .replied .ok 6]) := by
    decide
  have undone := (lawful _ _ _ member).mpr ⟨.inl rfl, rfl⟩
  rw [undoesStep_iff] at undone
  exact absurd undone.2 (by decide)

/-- Requests sent at once wait behind those sent before. -/
theorem moments_sent (completion : Completion) (unanswered requests : List Request)
    (events : List Event) :
    completion.moments unanswered (requests.map .sent ++ events) =
      (requests.foldl sent completion).moments (unanswered ++ requests) events := by
  induction requests generalizing completion unanswered with
  | nil => simp
  | cons request rest inductionHypothesis =>
    simp only [List.map_cons, List.cons_append, moments, List.foldl_cons]
    rw [inductionHypothesis, List.append_assoc, List.singleton_append]

/-- Replies alone undo nothing when the request sent last is no revert. -/
theorem replies_undo_nothing (completion : Completion) (unanswered : List Request)
    (replies : List (Reply × Nat)) (other : completion.lastRequest ≠ some .revert) :
    ∀ moment ∈ completion.moments unanswered (replies.map fun (reply, cursor) => .replied reply cursor),
      ¬ moment.completion.UndoesStep moment.reply := by
  induction replies generalizing completion unanswered with
  | nil => simp [moments]
  | cons first rest inductionHypothesis =>
    cases unanswered with
    | nil => exact inductionHypothesis completion [] other
    | cons answered waiting =>
      intro moment member
      rcases List.mem_cons.mp member with rfl | later
      · rw [undoesStep_iff]
        exact fun takes => other takes.2
      · refine inductionHypothesis _ waiting ?_ moment later
        rw [apply_lastRequest]
        exact other

/-- When a single character takes the place of any text and the requests for it go out before the
first reply comes, none of the reverts is carried out. -/
theorem replacement_undoes_nothing (completion : Completion) (offset removed : Nat)
    (character : Char) (allowed : Request.reservedBelow ≤ character.toNat)
    (replies : List (Reply × Nat)) :
    ∀ moment ∈ completion.moments []
        ((Session.requestsFor ⟨offset, removed, [character]⟩).map .sent ++
          replies.map fun (reply, cursor) => .replied reply cursor),
      ¬ moment.completion.UndoesStep moment.reply := by
  rw [moments_sent]
  apply replies_undo_nothing
  simp [Session.requestsFor, Request.advance?, Nat.not_lt.mpr allowed, sent, Request.kind]

end Typeahead.Completion

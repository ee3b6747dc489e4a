import Mathlib.Data.List.Infix
import Typeahead.Proofs.Session.Timer
import Typeahead.Proofs.Workspace.Exchanges

/-!
# Requests that are outstanding

A session knows one bit about the answers that it still has to get: whether it awaits one.
Each request sets it and each reply clears it, so that without a timeout the bit tells what
passed last between the session and its engine (`Session.Course.phase`), and not whether
answers are outstanding. The two agree exactly as long as every request has been answered or
the last thing to pass was a request: `awaits_what_is_outstanding_iff`. When several requests
are outstanding, the first reply ends the wait for all of them.
-/

namespace Typeahead

namespace Exchange

/-- The request asked for. -/
def request? : Exchange → Option Request
  | .asked request => some request
  | .taken _ => none

/-- The reply taken. -/
def reply? : Exchange → Option Reply
  | .asked _ => none
  | .taken reply => some reply

/-- The requests of a history, in order. -/
def requests (history : List Exchange) : List Request :=
  history.filterMap request?

/-- The replies of a history, in order. -/
def replies (history : List Exchange) : List Reply :=
  history.filterMap reply?

/-- How many requests of a history have no answer, when the replies answer them in order. -/
def outstanding (history : List Exchange) : Nat :=
  (requests history).length - (replies history).length

/-- No reply comes before the request that it answers. -/
def InTurn (history : List Exchange) : Prop :=
  ∀ part, part <+: history → (replies part).length ≤ (requests part).length

instance (history : List Exchange) : Decidable (InTurn history) :=
  decidable_of_iff (∀ part ∈ history.inits, (replies part).length ≤ (requests part).length)
    (by simp only [List.mem_inits, InTurn])

/-- The requests of one history behind another. -/
theorem requests_append (first second : List Exchange) :
    requests (first ++ second) = requests first ++ requests second :=
  List.filterMap_append

/-- The replies of one history behind another. -/
theorem replies_append (first second : List Exchange) :
    replies (first ++ second) = replies first ++ replies second :=
  List.filterMap_append

/-- The requests asked for are those of the requests asked for. -/
theorem requests_asked (requests : List Request) :
    Exchange.requests (requests.map .asked) = requests := by
  simp [Exchange.requests, List.filterMap_map, Function.comp_def, request?]

/-- A history begun in turn was in turn. -/
theorem InTurn.before {first second : List Exchange} (inTurn : InTurn (first ++ second)) :
    InTurn first := by
  intro part begins
  exact inTurn part (begins.trans (List.prefix_append first second))

/-- The last thing to pass tells whether requests are outstanding exactly if it was a request or
none is. A request that has just been asked for is outstanding itself, since all replies until then
answered earlier ones. -/
theorem last_asked_iff_outstanding {history : List Exchange} (inTurn : InTurn history) :
    ((∃ request, history.getLast? = some (.asked request)) ↔ 0 < outstanding history) ↔
      outstanding history = 0 ∨ ∃ request, history.getLast? = some (.asked request) := by
  rcases List.eq_nil_or_concat' history with rfl | ⟨earlier, last, rfl⟩
  · simp [outstanding, requests, replies]
  · cases last with
    | asked request =>
      have before := inTurn.before earlier (List.prefix_refl earlier)
      have later : 0 < outstanding (earlier ++ [.asked request]) := by
        simp only [outstanding, requests_append, replies_append, List.length_append]
        simp only [requests, replies, List.filterMap_cons, request?, reply?, List.filterMap_nil,
          List.length_cons, List.length_nil] at before ⊢
        omega
      simp [later]
    | taken reply =>
      simp only [List.getLast?_append, List.getLast?_singleton, Option.some_or, Option.some.injEq,
        reduceCtorEq, exists_false, false_iff, or_false]
      omega

end Exchange

/-- What the phase is after something has passed. -/
def Phase.after (_ : Phase) : Exchange → Phase
  | .asked _ => .awaitingReply
  | .taken _ => .idle

/-- Only what passed last counts for the phase. -/
theorem Phase.foldl_after (phase : Phase) (history : List Exchange) :
    history.foldl Phase.after phase = (history.getLast?.map phase.after).getD phase := by
  rcases List.eq_nil_or_concat' history with rfl | ⟨earlier, last, rfl⟩
  · rfl
  · simp only [List.foldl_append, List.getLast?_append]
    rfl

/-- From an idle phase on, an answer is awaited exactly if a request passed last. -/
theorem Phase.foldl_awaits_iff (history : List Exchange) :
    history.foldl Phase.after .idle = .awaitingReply ↔
      ∃ request, history.getLast? = some (.asked request) := by
  rw [Phase.foldl_after]
  rcases history.getLast? with _ | ⟨request | reply⟩ <;> simp [Phase.after]

/-- Requests asked for while an answer is awaited leave it at that. -/
theorem Phase.foldl_asked (requests : List Request) :
    (requests.map Exchange.asked).foldl Phase.after .awaitingReply = .awaitingReply := by
  induction requests with
  | nil => rfl
  | cons request rest inductionHypothesis => exact inductionHypothesis

namespace Session

/-- A session that waits for answers as long as it takes. -/
structure Untimed (session : Session) : Prop where
  patient : session.timeout = none
  unhurried : session.worker.deadline? = none

/-- When requests are sent, an answer is awaited from the first one on. -/
theorem sendAll_phase (requests : List Request) (session : Session) :
    (sendAll requests session).1.completion.phase =
      (requests.map Exchange.asked).foldl Phase.after session.completion.phase := by
  induction requests generalizing session with
  | nil => rfl
  | cons request rest inductionHypothesis =>
    rw [sendAll]
    cases taken : session.outlet.send? request with
    | none =>
      simp only [send, taken]
      exact (Phase.foldl_asked rest).symm
    | some outlet =>
      simp only [send, taken]
      exact inductionHypothesis _

/-- Whatever a reply does, it ends the wait. -/
theorem beginReply_phase (session : Session) (host : Host) (reply : Reply) :
    (session.beginReply host reply).completion.phase = .idle := by
  unfold beginReply
  split <;> rfl

/-- Taking a reply sets no deadline. -/
theorem beginReply_untimed (session : Session) (host : Host) (reply : Reply)
    (patient : session.timeout = none) : (session.beginReply host reply).Untimed := by
  unfold beginReply
  split <;> exact ⟨patient, rfl⟩

variable {session after : Session} {exchanges : List Exchange}

/-- Without a timeout, every turn leaves the phase as what passes in it says. -/
theorem Untimed.turn (untimed : session.Untimed) (turn : session.Turn exchanges after) :
    after.Untimed ∧
      after.completion.phase = exchanges.foldl Phase.after session.completion.phase := by
  cases turn with
  | asked requests =>
    refine ⟨?_, sendAll_phase requests session⟩
    obtain ⟨_, _, _, _, sent⟩ := sendAll_kept requests session
    rw [sent]
    exact ⟨untimed.patient, untimed.unhurried⟩
  | inbound | outbound | cancelled => exact ⟨⟨untimed.patient, untimed.unhurried⟩, rfl⟩
  | worked stepped =>
    have unhurried := untimed.unhurried
    cases stepWorker_cases stepped with
    | waits stage =>
      refine ⟨⟨untimed.patient, by simp [deadlineAt, Worker.deadline?, untimed.patient]⟩, ?_⟩
      simp [taking?, stage]
    | stops stage stopping =>
      refine ⟨⟨untimed.patient, rfl⟩, ?_⟩
      simp [taking?_of_stopping stopping]
    | takes stage active first =>
      refine ⟨beginReply_untimed _ _ _ untimed.patient, ?_⟩
      rw [beginReply_phase, taking?_of_first stage active first]
      rfl
    | notices stage empty =>
      rw [stage] at unhurried
      refine ⟨⟨untimed.patient, unhurried⟩, ?_⟩
      simp [taking?_of_empty empty]
    | expires stage =>
      rw [stage] at unhurried
      cases unhurried
    | tells stage | asks stage | edits stage | passesOver stage | ends stage =>
      refine ⟨⟨untimed.patient, rfl⟩, ?_⟩
      simp [taking?, stage]

/-- Without a timeout, the phase after a course is that of the last thing that passed in it. -/
theorem Course.phase (course : session.Course exchanges after) (untimed : session.Untimed) :
    after.completion.phase = exchanges.foldl Phase.after session.completion.phase := by
  induction course with
  | rest session => rfl
  | turn turn _ inductionHypothesis =>
    obtain ⟨middle, phase⟩ := untimed.turn turn
    rw [List.foldl_append, ← phase]
    exact inductionHypothesis middle

end Session

namespace Workspace

/-- The requests that pass in a run are those of its calls. -/
theorem requests_exchangeLog (number : Nat) (workspace : Workspace) (moves : List Move) :
    Exchange.requests (workspace.exchangeLog number moves) =
      Call.owed (workspace.log number moves) := by
  have silent : ∀ replies : List Reply, Exchange.requests (replies.map .taken) = [] := by
    intro replies
    simp [Exchange.requests, Exchange.request?]
  induction moves generalizing workspace with
  | nil => rfl
  | cons move rest inductionHypothesis =>
    rw [exchangeLog, Exchange.requests_append, inductionHypothesis, exchanges,
      Exchange.requests_append, silent, Exchange.requests_asked]
    simp [log, Call.owed]

/-- A document is connected, and the session waits for answers as long as it takes. Whatever is
asked of the session from then on and whenever its worker takes replies, as long as none comes
before its request: the session awaits a reply exactly if a request was the last thing to pass, so
that this says whether requests are outstanding exactly if none is or a request passed last. The
requests counted are those that the engine gets to read.

To the phase the run is what passes in it, and only what passes last counts. -/
theorem awaits_what_is_outstanding_iff (before : Workspace) (document : DocumentId) (host : Nat)
    (language : Text) (later : List Move) (reached : before.Reached) (ready : before.Ready language)
    (patient : before.settings.replyTimeout = none)
    (spare : ∀ move ∈ later, move.Spares before.sessions.length document) :
    let number := before.sessions.length
    let connected := before.perform (.activate document host language)
    let history := .asked (.start language) :: connected.exchangeLog number later
    ∃ session, (connected.run later).sessions[number]? = some session ∧
      session.outlet.sink.written ++ Request.encodeAll session.outlet.queue =
        Request.encodeAll (Exchange.requests history) ∧
      (session.isAwaitingReply = true ↔ ∃ request, history.getLast? = some (.asked request)) ∧
      (Exchange.InTurn history →
        ((session.isAwaitingReply = true ↔ 0 < Exchange.outstanding history) ↔
          Exchange.outstanding history = 0 ∨
            ∃ request, history.getLast? = some (.asked request))) := by
  intro number connected history
  obtain ⟨settings, directory, supply, refusal, earlier, rfl⟩ := reached
  have numbered := (numbered_start settings directory supply refusal).run earlier
  obtain ⟨first, opened⟩ := serves_connected numbered ready document host
  obtain ⟨session, serves⟩ := opened.run later spare
  obtain ⟨usable, line, lines, given, -⟩ := ready
  have present := (activate_connected document host usable given).added (numbered.fresh document)
  obtain ⟨after, arrived, course⟩ := leads_run present rfl later
  obtain rfl : session = after := Option.some.inj (serves.present.symm.trans arrived)
  have phase : session.completion.phase = history.foldl Phase.after .idle :=
    course.phase ⟨patient, rfl⟩
  have awaits : session.isAwaitingReply = true ↔
      ∃ request, history.getLast? = some (.asked request) := by
    rw [← Phase.foldl_awaits_iff, ← phase]
    simp [Session.isAwaitingReply]
  refine ⟨session, arrived, ?_, awaits, fun inTurn => ?_⟩
  · have counted : Exchange.requests history =
        .start language :: Call.owed (connected.log number later) := by
      rw [← requests_exchangeLog number connected later]
      rfl
    rw [counted]
    exact serves.carries.stream
  · rw [awaits]
    exact Exchange.last_asked_iff_outstanding inTurn

/-- A client that waits for answers as long as it takes, with one open document and a connection to
be had. -/
def patientStart : Workspace :=
  (start { Settings.defaults with replyTimeoutMs := 0 } [] [.fresh] (.noSession ⟨['d']⟩)).run
    [.openDocument (.ofBuffer ⟨['d']⟩ .direct .empty true)]

/-- That document has been connected. -/
def patientConnected : Workspace :=
  patientStart.perform (.activate ⟨['d']⟩ 0 ['c'])

/-- The engine acknowledges a request, and the acknowledgement is read and applied. -/
def acknowledged : List Move :=
  .deliver 0 [0] :: List.replicate 4 (.act 0 .intake) ++ List.replicate 4 (.act 0 .worker)

/-- A character typed when the language has been acknowledged is outstanding, and its answer is
awaited. -/
theorem typed_character_awaited :
    let later := acknowledged ++ [.edit ⟨['d']⟩ (.type 'a')]
    let history := .asked (.start ['c']) :: patientConnected.exchangeLog 0 later
    patientStart.Reached ∧ patientStart.Ready ['c'] ∧
      patientStart.settings.replyTimeout = none ∧ (∀ move ∈ later, move.Spares 0 ⟨['d']⟩) ∧
      Exchange.InTurn history ∧ Exchange.outstanding history = 1 ∧
      ∃ session, (patientConnected.run later).sessions[0]? = some session ∧
        session.isAwaitingReply = true := by
  intro later history
  have reached : patientStart.Reached := ⟨_, _, _, _, _, rfl⟩
  have ready : patientStart.Ready ['c'] := ⟨rfl, .fresh, [], rfl, rfl⟩
  have patient : patientStart.settings.replyTimeout = none := rfl
  have spare : ∀ move ∈ later, move.Spares 0 ⟨['d']⟩ := by
    simp [later, acknowledged, Move.Spares]
  have passed : history = [.asked (.start ['c']), .taken .ok, .asked (.advance 'a')] := by decide
  have inTurn : Exchange.InTurn history := by
    rw [passed]
    decide
  have waiting : Exchange.outstanding history = 1 := by
    rw [passed]
    decide
  obtain ⟨session, present, -, -, agrees⟩ := awaits_what_is_outstanding_iff patientStart ⟨['d']⟩ 0
    ['c'] later reached ready patient spare
  have last : ∃ request, history.getLast? = some (.asked request) :=
    ⟨.advance 'a', by rw [passed]; rfl⟩
  have some : 0 < Exchange.outstanding history := by
    rw [waiting]
    exact Nat.zero_lt_one
  have awaits := ((agrees inTurn).mpr (.inr last)).mpr some
  exact ⟨reached, ready, patient, spare, inTurn, waiting, session, present, awaits⟩

/-- Two characters are typed, and the acknowledgement of the first one ends the wait while the
second one is outstanding. -/
theorem second_character_not_awaited :
    ¬ ∀ (before : Workspace) (document : DocumentId) (host : Nat) (language : Text)
      (later : List Move), before.Reached → before.Ready language →
      before.settings.replyTimeout = none →
      (∀ move ∈ later, move.Spares before.sessions.length document) →
      let connected := before.perform (.activate document host language)
      let history := .asked (.start language) :: connected.exchangeLog before.sessions.length later
      Exchange.InTurn history →
      ∀ session, (connected.run later).sessions[before.sessions.length]? = some session →
        session.worker.isApplying = false →
        (session.isAwaitingReply = true ↔ 0 < Exchange.outstanding history) := by
  intro awaitsOutstanding
  let later : List Move := acknowledged ++
    [.edit ⟨['d']⟩ (.type 'a'), .edit ⟨['d']⟩ (.type 'b')] ++ acknowledged
  have passed : Exchange.asked (.start ['c']) :: patientConnected.exchangeLog 0 later =
      [.asked (.start ['c']), .taken .ok, .asked (.advance 'a'), .asked (.advance 'b'),
        .taken .ok] := by decide
  have rests : ((patientConnected.run later).sessions[0]?.map fun session =>
      (session.worker.isApplying, session.isAwaitingReply)) = some (false, false) := by decide
  obtain ⟨session, present, stage⟩ := Option.map_eq_some_iff.mp rests
  simp only [Prod.mk.injEq] at stage
  obtain ⟨resting, idle⟩ := stage
  have inTurn : Exchange.InTurn
      (.asked (.start ['c']) :: patientConnected.exchangeLog 0 later) := by
    rw [passed]
    decide
  have waiting : 0 < Exchange.outstanding
      (.asked (.start ['c']) :: patientConnected.exchangeLog 0 later) := by
    rw [passed]
    decide
  have agrees := awaitsOutstanding patientStart ⟨['d']⟩ 0 ['c'] later ⟨_, _, _, _, _, rfl⟩
    ⟨rfl, .fresh, [], rfl, rfl⟩ rfl (by simp [later, acknowledged, Move.Spares]) inTurn session
    present resting
  exact Bool.false_ne_true (idle.symm.trans (agrees.mpr waiting))

end Workspace

end Typeahead

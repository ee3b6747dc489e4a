import Typeahead.Proofs.Workspace.Lasting

/-!
# Requests that are refused

A session whose outbound side has stopped takes no request any more. It notes a request as
its latest one before it finds out, and does not take the note back: `refused_unchanged_iff`
says what such an attempt leaves behind, for a request sent, for the cursor handle given
back and for a change heard of. Nothing else is touched, and nothing at all exactly if the
session was awaiting the answer to a request of the same kind already.

Nobody ends the wait for that answer once the worker has stopped: the session awaits it for
ever (`awaits_for_ever`).
-/

namespace Typeahead

namespace Session

/-- The session awaits the answer to a request of this kind. -/
def Awaits (session : Session) (request : Request) : Prop :=
  session.completion.lastRequest = some request.kind ∧ session.completion.phase = .awaitingReply

/-- What an attempt to send requests leaves behind of which none is queued: at most the note of the
first one, and the same completion exactly if that note was there already. -/
structure Refused (session : Session) (requests : List Request) (after : Session) : Prop where
  rest : after = { session with completion := after.completion }
  noted : after.completion =
    { session.completion with
      lastRequest := after.completion.lastRequest, phase := after.completion.phase }
  unchanged_iff : after.completion = session.completion ↔
    ∀ first ∈ requests.head?, session.Awaits first

variable {session : Session}

/-- To note a request changes nothing exactly if the answer to one of its kind is awaited. -/
theorem sent_eq_iff (session : Session) (request : Request) :
    session.completion.sent request = session.completion ↔ session.Awaits request := by
  unfold Awaits
  constructor
  · intro same
    rw [← same]
    exact ⟨rfl, rfl⟩
  · rintro ⟨latest, awaits⟩
    rw [Completion.sent, ← latest, ← awaits]

/-- Where there was nothing to send, nothing is left behind. -/
theorem refused_nothing (session : Session) : session.Refused [] session where
  rest := rfl
  noted := rfl
  unchanged_iff := by simp

/-- A request that is refused has been noted. -/
theorem refused_first (session : Session) (request : Request) (others : List Request) :
    session.Refused (request :: others)
      { session with completion := session.completion.sent request } where
  rest := rfl
  noted := rfl
  unchanged_iff := by simpa using session.sent_eq_iff request

/-- When no request is queued, there was none or the first one was refused. -/
theorem sendAll_refused (requests : List Request) (none : (sendAll requests session).2 = 0) :
    session.Refused requests (sendAll requests session).1 := by
  cases requests with
  | nil => exact session.refused_nothing
  | cons request rest =>
    cases taken : session.outlet.send? request with
    | none =>
      simp only [sendAll, send, taken]
      exact session.refused_first request rest
    | some outlet =>
      simp only [sendAll, send, taken] at none
      exact absurd none (Nat.succ_ne_zero _)

/-- A request is refused when the outbound side has stopped, and then only. -/
theorem send_refused_iff (session : Session) (request : Request) :
    (∃ fault, (session.send request).2 = .error fault) ↔
      session.outlet.closed = true ∨ session.outlet.finished = true := by
  by_cases stopped : session.outlet.closed = true ∨ session.outlet.finished = true <;>
    simp [send, Outlet.send?, stopped]

/-- Sending fails when the request is refused, and then only. -/
theorem send_refused {request : Request} {fault : Fault}
    (refused : (session.send request).2 = .error fault) :
    session.Refused [request] (session.send request).1 := by
  cases taken : session.outlet.send? request with
  | none =>
    simp only [send, taken]
    exact session.refused_first request []
  | some outlet => simp [send, taken] at refused

/-- Giving the cursor handle back fails when there is none or when the request is refused. -/
theorem restoreCursor_refused {fault : Fault} (refused : session.restoreCursor.2 = .error fault) :
    session.Refused session.restoring session.restoreCursor.1 := by
  cases known : session.completion.cursorHandle with
  | none =>
    simp only [restoreCursor, restoring, known]
    exact session.refused_nothing
  | some handle =>
    simp only [restoreCursor, known] at refused
    simp only [restoreCursor, restoring, known]
    exact send_refused refused

/-- A change to which no request is queued amounts to none, or the first one is refused. -/
theorem handleChange_refused {change : Change} (none : (session.handleChange change).2 = 0) :
    session.Refused (session.hearing change) (session.handleChange change).1 := by
  rw [handleChange_eq] at none ⊢
  exact sendAll_refused _ none

/-- A session whose worker has stopped while an answer was awaited. -/
def Stranded (session : Session) : Prop :=
  session.worker = .finished ∧ session.completion.phase = .awaitingReply

/-- Nothing that can happen to a stranded session ends its wait: further requests only renew it,
and its worker takes no step any more. -/
theorem stranded_lasting : Lasting Stranded where
  send session request stranded := by
    unfold send
    split <;> exact ⟨stranded.1, rfl⟩
  inbound _ _ stranded := stranded
  outbound _ _ stranded := stranded
  cancel _ stranded := stranded
  work session host now next hostAfter change stranded stepped := by
    unfold stepWorker at stepped
    rw [stranded.1] at stepped
    cases stepped

end Session

namespace Workspace

variable {workspace : Workspace} {number : Nat} {session : Session}

/-- A stranded session awaits its answer for ever, whatever happens. -/
theorem awaits_for_ever (holds : workspace.Holds number Session.Stranded) (moves : List Move) :
    (workspace.run moves).Holds number fun session => session.isAwaitingReply = true := by
  obtain ⟨session, present, -, awaits⟩ := holds.run Session.stranded_lasting moves
  exact ⟨session, present, by simp [Session.isAwaitingReply, awaits]⟩

/-- A session that is asked to send in vain stands in its place as that leaves it, and every other
one as it was. -/
theorem setSession_refused (present : workspace.sessions[number]? = some session) {other : Nat}
    {acting after : Session} {requests : List Request}
    (acts : workspace.sessions[other]? = some acting) (refused : acting.Refused requests after) :
    (workspace.setSession other after).Holds number
      (session.Refused (if other = number then requests else [])) := by
  by_cases same : other = number
  · subst same
    obtain rfl : acting = session := Option.some.inj (acts.symm.trans present)
    rw [if_pos rfl]
    exact ⟨after, sessions_setSession present after, refused⟩
  · rw [if_neg same]
    exact ⟨session, (sessions_setSession_other _ same after).trans present,
      session.refused_nothing⟩

/-- Sending for a document fails when it has no session or when its session refuses. -/
theorem send_refused (present : workspace.sessions[number]? = some session)
    {document : DocumentId} {request : Request} {fault : Fault}
    (refused : (workspace.send document request).2 = .error fault) :
    (workspace.send document request).1.Holds number
      (session.Refused
        (if workspace.registered? document = some number then [request] else [])) := by
  unfold send at refused ⊢
  cases registered : workspace.registered? document with
  | none => exact ⟨session, present, by simpa using session.refused_nothing⟩
  | some other =>
    simp only [registered, sendBy] at refused ⊢
    cases acts : workspace.sessions[other]? with
    | none => simp [acts] at refused
    | some acting =>
      simp only [acts] at refused ⊢
      simpa using setSession_refused present acts (Session.send_refused refused)

/-- Routing a change queues nothing when the document has no session, when the change amounts to no
request, or when the session refuses the first one. -/
theorem documentChanged_refused (present : workspace.sessions[number]? = some session)
    {document : DocumentId} {change : Change}
    (none : (workspace.documentChanged document change).2 = 0) :
    (workspace.documentChanged document change).1.Holds number
      (session.Refused
        (if workspace.registered? document = some number then session.hearing change else [])) := by
  unfold documentChanged at none ⊢
  cases registered : workspace.registered? document with
  | none => exact ⟨session, present, by simpa using session.refused_nothing⟩
  | some other =>
    simp only [registered, tellSession] at none ⊢
    cases acts : workspace.sessions[other]? with
    | none =>
      have different := ne_of_absent present acts
      exact ⟨session, present, by simpa [different] using session.refused_nothing⟩
    | some acting =>
      simp only [acts] at none ⊢
      have placed := setSession_refused present acts (Session.handleChange_refused none)
      by_cases same : other = number
      · obtain rfl : acting = session := Option.some.inj (acts.symm.trans (same ▸ present))
        simpa using placed
      · simpa [same] using placed

/-- What a failed attempt leaves behind, by the way in which it is made: a request sent by a session
or for a document, the cursor handle given back, and a change told to a session or routed to one.
The completion is as it was exactly if there was nothing to send or the answer to a request of the
first one's kind was awaited already. A session whose worker has stopped awaits the answer to a
request that it refused for ever. -/
theorem refused_unchanged_iff (present : workspace.sessions[number]? = some session) :
    (∀ request fault, (session.send request).2 = .error fault →
      session.Refused [request] (session.send request).1) ∧
    (∀ fault, session.restoreCursor.2 = .error fault →
      session.Refused session.restoring session.restoreCursor.1) ∧
    (∀ change, (session.handleChange change).2 = 0 →
      session.Refused (session.hearing change) (session.handleChange change).1) ∧
    (∀ document request fault, (workspace.send document request).2 = .error fault →
      (workspace.send document request).1.Holds number (session.Refused
        (if workspace.registered? document = some number then [request] else []))) ∧
    (∀ document change, (workspace.documentChanged document change).2 = 0 →
      (workspace.documentChanged document change).1.Holds number (session.Refused
        (if workspace.registered? document = some number then session.hearing change else []))) ∧
    ∀ request fault, (session.send request).2 = .error fault → session.worker = .finished →
      ∀ moves, ((workspace.sendBy number request).1.run moves).Holds number
        fun later => later.isAwaitingReply = true := by
  refine ⟨fun _ _ => Session.send_refused, fun _ => Session.restoreCursor_refused,
    fun _ => Session.handleChange_refused, fun _ _ _ => send_refused present,
    fun _ _ => documentChanged_refused present, ?_⟩
  intro request fault _ stopped moves
  have noted : (session.send request).1.Stranded := by
    unfold Session.send
    split <;> exact ⟨stopped, rfl⟩
  have inside := (List.getElem?_eq_some_iff.mp present).1
  have placed : (workspace.sendBy number request).1.Holds number Session.Stranded :=
    ⟨(session.send request).1, by simp only [sendBy, present]; simp [setSession, inside], noted⟩
  exact awaits_for_ever placed moves

/-- A client whose only session is told to stop after these moves, and does. -/
def stoppedAfter (moves : List Move) : Workspace :=
  (start .defaults [] [.fresh] (.noSession ⟨['d']⟩)).run
    ([.openDocument (.ofBuffer ⟨['d']⟩ .direct .empty true), .activate ⟨['d']⟩ 0 ['c']] ++ moves ++
      [.cancel 0, .act 0 .outlet, .act 0 .intake, .act 0 .worker, .act 0 .worker])

/-- A session stopped before its engine answered refuses to select the language once more, which
changes nothing. -/
theorem selection_refused_unchanged :
    ∃ session fault, (stoppedAfter []).sessions[0]? = some session ∧
      (session.send (.start ['c'])).2 = .error fault ∧
      (session.send (.start ['c'])).1.completion = session.completion := by
  have stopped : ((stoppedAfter []).sessions[0]?.map fun session =>
      (session.outlet.finished, session.completion.lastRequest, session.completion.phase)) =
      some (true, some .start, .awaitingReply) := by decide
  obtain ⟨session, present, stage⟩ := Option.map_eq_some_iff.mp stopped
  simp only [Prod.mk.injEq] at stage
  obtain ⟨finished, latest, awaits⟩ := stage
  obtain ⟨fault, refused⟩ := (session.send_refused_iff (.start ['c'])).mpr (.inr finished)
  obtain ⟨sends, -⟩ := refused_unchanged_iff present
  have unchanged := (sends _ _ refused).unchanged_iff.mpr (by
    intro first member
    obtain rfl := Option.some.inj member
    exact ⟨latest, awaits⟩)
  exact ⟨session, fault, present, refused, unchanged⟩

/-- A session that had its answer and was stopped then refuses a revert, and awaits an answer to it
from then on. -/
theorem refused_revert_awaited :
    ¬ ∀ (workspace : Workspace) (number : Nat) (session : Session) (request : Request)
      (fault : Fault), workspace.Reached → workspace.sessions[number]? = some session →
      (session.send request).2 = .error fault →
      (session.send request).1.completion = session.completion := by
  intro refusedUnchanged
  let answered : List Move :=
    .deliver 0 [0] :: List.replicate 4 (.act 0 .intake) ++ List.replicate 4 (.act 0 .worker)
  have stopped : ((stoppedAfter answered).sessions[0]?.map fun session =>
      (session.outlet.finished, session.completion.phase)) = some (true, .idle) := by decide
  obtain ⟨session, present, stage⟩ := Option.map_eq_some_iff.mp stopped
  simp only [Prod.mk.injEq] at stage
  obtain ⟨finished, idle⟩ := stage
  obtain ⟨fault, refused⟩ := (session.send_refused_iff .revert).mpr (.inr finished)
  have reached : (stoppedAfter answered).Reached := ⟨_, _, _, _, _, rfl⟩
  have same :=
    refusedUnchanged (stoppedAfter answered) 0 session .revert fault reached present refused
  have unchanged := (Session.send_refused refused).unchanged_iff.mp same .revert rfl
  exact absurd (idle.symm.trans unchanged.2) (by decide)

end Workspace

end Typeahead

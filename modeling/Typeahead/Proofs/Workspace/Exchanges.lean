import Typeahead.Proofs.Session.Course
import Typeahead.Proofs.Workspace.Transcript

/-!
# What passes between a session and its engine

Every move takes each session of the workspace along a course of its own: it is asked for
the requests of its calls, its worker may take a reply, or something else happens to it
(`leads_perform`). So a run takes a session along a course with `exchanges` (`leads_run`),
and what every turn of a session keeps holds of it after every run.

A session does not look at who makes a change or when; it goes by its lock. As long as it is
locked exactly while it applies a reply, the requests are those of `Call.requests`.
-/

namespace Typeahead

/-- The requests with which a session answers to calls. -/
def Session.heeds (session : Session) (calls : List Call) : List Request :=
  calls.flatMap fun
    | .send request => [request]
    | .hear change _ => session.hearing change

namespace Workspace

/-- The reply that a session takes in a move, if it takes one. -/
def takes (number : Nat) (workspace : Workspace) : Move → List Reply
  | .act other .worker =>
    if other = number ∧ (workspace.act number .worker).isSome then
      (workspace.sessions[number]?.bind Session.taking?).toList
    else []
  | _ => []

/-- What passes between a session and its engine in a move. -/
def exchanges (number : Nat) (workspace : Workspace) (move : Move) : List Exchange :=
  (workspace.takes number move).map .taken ++
    (Call.owed (workspace.calls number move)).map .asked

/-- What passes between a session and its engine in a run, in order. -/
def exchangeLog (number : Nat) : Workspace → List Move → List Exchange
  | _, [] => []
  | workspace, move :: rest =>
    workspace.exchanges number move ++ exchangeLog number (workspace.perform move) rest

/-- What passes in a run is what passes in its first part, and then in the rest. -/
theorem exchangeLog_append (workspace : Workspace) (number : Nat) (before later : List Move) :
    workspace.exchangeLog number (before ++ later) =
      workspace.exchangeLog number before ++ (workspace.run before).exchangeLog number later := by
  induction before generalizing workspace with
  | nil => rfl
  | cons move rest inductionHypothesis =>
    simp only [List.cons_append, exchangeLog, inductionHypothesis, List.append_assoc, run]

variable {workspace next : Workspace} {number : Nat} {session : Session}

/-- A worker that is not able to take a step takes no reply. -/
theorem takes_of_waiting (waits : workspace.act number .worker = none) :
    workspace.takes number (.act number .worker) = [] := by
  simp [takes, waits]

/-- Only a step of a session's own worker takes a reply. -/
theorem takes_of_foreign {move : Move} (foreign : move ≠ .act number .worker) :
    workspace.takes number move = [] := by
  cases move with
  | act other actor =>
    cases actor with
    | intake | outlet => rfl
    | worker =>
      have different : other ≠ number := fun same => foreign (same ▸ rfl)
      simp [takes, different]
  | _ => rfl

/-- A worker that steps takes the reply that its step is for. -/
theorem takes_own (present : workspace.sessions[number]? = some session)
    (acted : workspace.act number .worker = some next) :
    workspace.takes number (.act number .worker) = session.taking?.toList := by
  simp [takes, acted, present]

/-- The session of a number has come along a course from a session as it was before. -/
def Leads (workspace : Workspace) (number : Nat) (session : Session) (exchanges : List Exchange) :
    Prop :=
  ∃ after, workspace.sessions[number]? = some after ∧ session.Course exchanges after

/-- The number of a session is not one that has no session. -/
theorem ne_of_absent (present : workspace.sessions[number]? = some session) {other : Nat}
    (absent : workspace.sessions[other]? = none) : other ≠ number := by
  rintro rfl
  cases absent.symm.trans present

/-- What happens outside the sessions leaves a session where it is. -/
theorem leads_elsewhere (present : workspace.sessions[number]? = some session)
    (sessions : next.sessions = workspace.sessions) : next.Leads number session [] :=
  ⟨session, (congrArg (·[number]?) sessions).trans present, .rest session⟩

/-- Putting a session in its place takes that session along, and no other one. -/
theorem leads_setSession (present : workspace.sessions[number]? = some session) {other : Nat}
    {acting after : Session} {exchanges : List Exchange}
    (acts : workspace.sessions[other]? = some acting) (course : acting.Course exchanges after) :
    (workspace.setSession other after).Leads number session
      (if other = number then exchanges else []) := by
  by_cases same : other = number
  · subst same
    obtain rfl : acting = session := Option.some.inj (acts.symm.trans present)
    rw [if_pos rfl]
    exact ⟨after, sessions_setSession present after, course⟩
  · rw [if_neg same]
    exact ⟨session, (sessions_setSession_other _ same after).trans present, .rest session⟩

/-- One of the sides of a connection changes, and nothing passes. -/
theorem leads_silently (present : workspace.sessions[number]? = some session) {other : Nat}
    {acting after : Session} (acts : workspace.sessions[other]? = some acting)
    (course : acting.Course [] after) :
    (workspace.setSession other after).Leads number session [] := by
  simpa using leads_setSession present acts course

/-- Being asked to send requests is a course. -/
theorem course_sendAll (session : Session) (requests : List Request) :
    session.Course (requests.map .asked) (Session.sendAll requests session).1 :=
  Session.Turn.course (.asked requests)

/-- A session told of a change is asked for what it amounts to, and another one for nothing. -/
theorem leads_tellSession (present : workspace.sessions[number]? = some session) (other : Nat)
    (change : Change) (applying : Bool) :
    (workspace.tellSession other change).1.Leads number session
      ((session.heeds (if other = number then [.hear change applying] else [])).map .asked) := by
  cases acts : workspace.sessions[other]? with
  | none =>
    have different := ne_of_absent present acts
    simpa [tellSession, acts, different, Session.heeds] using leads_elsewhere present rfl
  | some acting =>
    have course := course_sendAll acting (acting.hearing change)
    rw [← Session.handleChange_eq] at course
    have leads := leads_setSession present acts course
    simp only [tellSession, acts]
    by_cases same : other = number
    · subst same
      obtain rfl : acting = session := Option.some.inj (acts.symm.trans present)
      simpa [Session.heeds] using leads
    · simpa [same, Session.heeds] using leads

/-- A change routed to a session is a call of that session. -/
theorem leads_documentChanged (present : workspace.sessions[number]? = some session)
    (document : DocumentId) (change : Change) :
    (workspace.documentChanged document change).1.Leads number session
      ((session.heeds (workspace.callsOf number session (some (document, change)))).map .asked) := by
  unfold documentChanged
  cases registered : workspace.registered? document with
  | none => simpa [callsOf, registered, Session.heeds] using leads_elsewhere present rfl
  | some other => simpa [callsOf, registered] using leads_tellSession present other change _

/-- An edit that a host reports is a call of the session of its document. -/
theorem leads_report (present : workspace.sessions[number]? = some session) (host : Host)
    (change : Option Change) :
    (workspace.report host change).Leads number session
      ((session.heeds (workspace.callsOf number session (host.reported? change))).map .asked) := by
  cases change with
  | none =>
    simpa [report, Host.reported?, callsOf, Session.heeds] using leads_elsewhere present rfl
  | some change =>
    cases listening : host.listening with
    | false =>
      simpa [report, Host.reported?, listening, callsOf, Session.heeds] using
        leads_elsewhere present rfl
    | true =>
      simpa [report, Host.reported?, listening] using
        leads_documentChanged present host.document change

/-- A request sent by a session is one asked for. -/
theorem leads_sendBy (present : workspace.sessions[number]? = some session) (other : Nat)
    (request : Request) :
    (workspace.sendBy other request).1.Leads number session
      ((session.heeds (if other = number then [.send request] else [])).map .asked) := by
  cases acts : workspace.sessions[other]? with
  | none =>
    have different := ne_of_absent present acts
    simpa [sendBy, acts, different, Session.heeds] using leads_elsewhere present rfl
  | some acting =>
    have course := course_sendAll acting [request]
    rw [Session.sendAll_single] at course
    have leads := leads_setSession present acts course
    simp only [sendBy, acts]
    by_cases same : other = number <;> simpa [same, Session.heeds] using leads

/-- A cursor handle given back is a request asked for. -/
theorem leads_restoreCursor (present : workspace.sessions[number]? = some session) (other : Nat) :
    (workspace.restoreCursor other).1.Leads number session
      ((session.heeds (if other = number then session.restoring.map .send else [])).map .asked) := by
  cases acts : workspace.sessions[other]? with
  | none =>
    have different := ne_of_absent present acts
    simpa [restoreCursor, acts, different, Session.heeds] using leads_elsewhere present rfl
  | some acting =>
    have course := course_sendAll acting acting.restoring
    rw [← Session.restoreCursor_eq] at course
    have leads := leads_setSession present acts course
    simp only [restoreCursor, acts]
    by_cases same : other = number
    · subst same
      obtain rfl : acting = session := Option.some.inj (acts.symm.trans present)
      simpa [Session.heeds, List.flatMap_map] using leads
    · simpa [same, Session.heeds] using leads

/-- What happens on the inbound side of any session passes nothing. -/
theorem leads_withIntake (present : workspace.sessions[number]? = some session) (other : Nat)
    {change : Intake → Intake}
    (turns : ∀ cancelled (intake : Intake), intake.Turn cancelled (change intake)) :
    (workspace.withIntake other change).Leads number session [] := by
  unfold withIntake
  split
  · exact leads_elsewhere present rfl
  · next acts => exact leads_silently present acts (Session.Turn.course (.inbound (turns _ _)))

/-- What the engine writes passes nothing yet. -/
theorem leads_deliver (present : workspace.sessions[number]? = some session) (connection : Nat)
    (content : Bytes) : (workspace.deliver connection content).1.Leads number session [] := by
  unfold deliver
  split
  · next acts =>
    split
    · exact leads_elsewhere present rfl
    · exact leads_silently present acts (Session.Turn.course (.inbound (.written content)))
  · split
    · exact leads_elsewhere present rfl
    · split
      · exact leads_elsewhere present rfl
      · exact leads_elsewhere present rfl

/-- The end of a connection passes nothing. -/
theorem leads_hangUp (present : workspace.sessions[number]? = some session) (connection : Nat) :
    (workspace.hangUp connection).Leads number session [] := by
  unfold hangUp
  split
  · next acting acts =>
    have closed : acting.Turn [] { acting with intake := acting.intake.close } := .inbound .closed
    exact leads_silently present acts
      (closed.course.trans (Session.Turn.course (.outbound .cut)))
  · exact leads_elsewhere present rfl

/-- Telling a session to stop passes nothing. -/
theorem leads_cancel (present : workspace.sessions[number]? = some session) (other : Nat) :
    (workspace.cancel other).Leads number session [] := by
  by_cases same : other = number
  · exact ⟨session.cancel, by simp [cancel, same, present], Session.Turn.course .cancelled⟩
  · exact ⟨session, by simp [cancel, same, present], .rest session⟩

/-- Connecting a document tells at most one of the sessions that were there before to stop. -/
theorem leads_activate (present : workspace.sessions[number]? = some session)
    (document : DocumentId) (host : Nat) (language : Text) :
    (workspace.activate document host language).1.Leads number session [] := by
  have inside := (List.getElem?_eq_some_iff.mp present).1
  rcases activate_cases workspace document host language with
    ⟨-, sessions⟩ | ⟨line, lines, usable, given⟩
  · exact leads_elsewhere present sessions
  · have placed : (workspace.placed document host language line lines).sessions[number]? =
        some session := by
      simp [List.getElem?_append_left inside, present]
    rw [activate_eq document host usable given]
    cases workspace.registered? document with
    | none => exact leads_elsewhere placed rfl
    | some replaced => exact leads_cancel placed replaced

/-- An operation of the user on any document is a call of the session of that document's host. -/
theorem leads_edit (present : workspace.sessions[number]? = some session)
    (document : DocumentId) (operation : Buffer.Operation) :
    (workspace.perform (.edit document operation)).Leads number session
      ((session.heeds (workspace.callsOf number session
        (workspace.reported? (.edit document operation)))).map .asked) := by
  cases hosting : workspace.hostOf? document with
  | none =>
    simpa [perform, edit, hosting, reported?, callsOf, Session.heeds] using
      leads_elsewhere present rfl
  | some place =>
    cases hosted : workspace.hosts[place]? with
    | none =>
      simpa [perform, edit, hosting, hosted, reported?, callsOf, Session.heeds] using
        leads_elsewhere present rfl
    | some host =>
      cases outcome : host.edit operation with
      | error fault =>
        simpa [perform, edit, hosting, hosted, outcome, Except.map, reported?, callsOf,
          Session.heeds] using leads_elsewhere present rfl
      | ok result =>
        obtain ⟨after, change⟩ := result
        have kept : (workspace.setHost place after).sessions[number]? = some session := present
        have reported := leads_report kept after change
        rw [callsOf_eq (setHost_keeps_register _ _ _).register] at reported
        simpa [perform, edit, hosting, hosted, outcome, Except.map, reported?] using reported

/-- A step of an actor takes its session along, and is a call of the session of the document of a
host that reports. A worker that takes a reply reports nothing. -/
theorem leads_act (present : workspace.sessions[number]? = some session) (other : Nat)
    (actor : Actor) :
    (workspace.perform (.act other actor)).Leads number session
      ((workspace.takes number (.act other actor)).map .taken ++
        (session.heeds (workspace.callsOf number session
          (workspace.reported? (.act other actor)))).map .asked) := by
  cases acted : workspace.act other actor with
  | none =>
    have nothing : workspace.takes number (.act other actor) = [] := by
      cases actor with
      | intake | outlet => rfl
      | worker =>
        by_cases same : other = number
        · subst same
          simp [takes, acted]
        · simp [takes, same]
    simpa [perform, acted, reported?_of_waiting acted, callsOf, Session.heeds, nothing] using
      leads_elsewhere present rfl
  | some next =>
    obtain ⟨acting, acts, step⟩ := act_acted acted
    have performed : workspace.perform (.act other actor) = next := by simp [perform, acted]
    rw [performed]
    cases step with
    | intake stepped =>
      obtain ⟨intake, worked, rfl⟩ := Option.map_eq_some_iff.mp stepped
      simpa [takes, reported?, callsOf, Session.heeds] using
        leads_silently present acts (Session.Turn.course (.inbound (.worked worked)))
    | outlet stepped =>
      obtain ⟨outlet, worked, rfl⟩ := Option.map_eq_some_iff.mp stepped
      simpa [takes, reported?, callsOf, Session.heeds] using
        leads_silently present acts (Session.Turn.course (.outbound (.worked worked)))
    | @worker host hostAfter after change hosted stepped =>
      obtain ⟨middle, went, course⟩ :=
        leads_setSession present acts (Session.Turn.course (.worked stepped))
      have placed : ((workspace.setSession other after).setHost acting.host
          hostAfter).sessions[number]? = some middle := went
      have register : ((workspace.setSession other after).setHost acting.host hostAfter).registered =
          workspace.registered := rfl
      obtain ⟨last, present', more⟩ := leads_report placed hostAfter change
      refine ⟨last, present', ?_⟩
      rw [reported?_of_worker acts hosted stepped]
      rw [callsOf_eq register] at more
      by_cases same : other = number
      · subst same
        obtain rfl : acting = session := Option.some.inj (acts.symm.trans present)
        obtain rfl : middle = after := by
          have inside := (List.getElem?_eq_some_iff.mp present).1
          simpa [setSession, inside] using went.symm
        have taken := takes_own present acted
        have heeds : middle.heeds (workspace.callsOf other middle (hostAfter.reported? change)) =
            acting.heeds (workspace.callsOf other acting (hostAfter.reported? change)) := by
          rw [callsOf_own stepped]
          cases change with
          | none => simp [Host.reported?, callsOf, Session.heeds]
          | some change => simp only [Session.heeds, Session.stepWorker_edits stepped]
        rw [taken, ← heeds]
        simpa using course.trans more
      · obtain rfl : session = middle := by
          simpa [setSession, same, present] using went
        simpa [takes, same] using more

/-- Every move takes a session along: it takes a reply, if its worker does so, and is asked for what
it is called for. -/
theorem leads_perform (present : workspace.sessions[number]? = some session) (move : Move) :
    (workspace.perform move).Leads number session
      ((workspace.takes number move).map .taken ++
        (session.heeds (workspace.calls number move)).map .asked) := by
  simp only [calls, present]
  cases move with
  | openDocument | forget | pass => exact leads_elsewhere present rfl
  | adjustHost document adjust =>
    refine leads_elsewhere present ?_
    simp only [perform, adjustHost]
    split <;> rfl
  | edit document operation => exact leads_edit present document operation
  | report document change => exact leads_documentChanged present document change
  | tell other change => exact leads_tellSession present other change _
  | send document request =>
    simp only [perform, send]
    cases registered : workspace.registered? document with
    | none => exact leads_elsewhere present rfl
    | some other => simpa [takes] using leads_sendBy present other request
  | sendBy other request => exact leads_sendBy present other request
  | restoreCursor other => exact leads_restoreCursor present other
  | deliver connection content => exact leads_deliver present connection content
  | arrive other arrivals => exact leads_withIntake present other fun _ _ => .arrived arrivals
  | endInbound other => exact leads_withIntake present other fun _ _ => .closed
  | hangUp connection => exact leads_hangUp present connection
  | activate document host language => exact leads_activate present document host language
  | cancel other => exact leads_cancel present other
  | act other actor => exact leads_act present other actor

/-- A session that is locked while it applies a reply, and only then, answers to its calls as they
say. -/
theorem heeds_calls (present : workspace.sessions[number]? = some session)
    (latched : session.Latched) (move : Move) :
    session.heeds (workspace.calls number move) = Call.owed (workspace.calls number move) := by
  have heard : ∀ change, session.heeds [.hear change session.worker.isApplying] =
      Call.owed [.hear change session.worker.isApplying] := by
    intro change
    unfold Session.Latched at latched
    cases applying : session.worker.isApplying <;>
      simp [Session.heeds, Session.hearing, Call.owed, Call.requests, latched, applying]
  have routed : ∀ reported, session.heeds (workspace.callsOf number session reported) =
      Call.owed (workspace.callsOf number session reported) := by
    intro reported
    unfold callsOf
    split
    · rfl
    · split
      · exact heard _
      · rfl
  cases move with
  | send | sendBy =>
    simp only [calls, present]
    split <;> rfl
  | restoreCursor other =>
    simp only [calls, present]
    split
    · simp [Session.heeds, Call.owed, List.flatMap_map, Call.requests]
    · rfl
  | tell other change =>
    simp only [calls, present]
    split
    · exact heard change
    · rfl
  | _ =>
    simp only [calls, present]
    exact routed _

/-- A run takes a session along a course with what passes between it and its engine. -/
theorem leads_run (present : workspace.sessions[number]? = some session)
    (latched : session.Latched) (moves : List Move) :
    (workspace.run moves).Leads number session (workspace.exchangeLog number moves) := by
  induction moves generalizing workspace session with
  | nil => exact ⟨session, present, .rest session⟩
  | cons move rest inductionHypothesis =>
    obtain ⟨middle, went, course⟩ := leads_perform present move
    rw [heeds_calls present latched] at course
    obtain ⟨after, arrived, more⟩ :=
      inductionHypothesis went (course.keeps Session.Latched.turn latched)
    exact ⟨after, arrived, course.trans more⟩

/-- A session that was not there before a move is the one of a document that has been connected. -/
theorem perform_newSession (numbered : workspace.Numbered) {move : Move}
    (there : (workspace.perform move).sessions[number]? = some session)
    (absent : workspace.sessions[number]? = none) :
    ∃ document host language line, move = .activate document host language ∧
      session = workspace.opened document host language line := by
  have outside := Nat.not_lt.mpr (List.getElem?_eq_none_iff.mp absent)
  have added := (List.getElem?_eq_some_iff.mp there).1
  cases move with
  | activate document host language =>
    rcases activate_cases workspace document host language with
      ⟨-, sessions⟩ | ⟨line, rest, usable, given⟩
    · cases absent.symm.trans ((congrArg (·[number]?) sessions).symm.trans there)
    · have connected := activate_connected document host usable given
      have count : number < workspace.sessions.length + 1 := connected.count ▸ added
      obtain rfl : number = workspace.sessions.length := by omega
      have latest := connected.added (numbered.fresh document)
      exact ⟨document, host, language, line, rfl, Option.some.inj (there.symm.trans latest)⟩
  | forget document => exact absurd added outside
  | _ =>
    rw [(perform_keeps_register workspace _ id).count] at added
    exact absurd added outside

/-- Every session of a workspace has a property. -/
def Everywhere (workspace : Workspace) (kept : Session → Prop) : Prop :=
  ∀ (number : Nat) session, workspace.sessions[number]? = some session → kept session

section Everywhere

variable {kept : Settings → Session → Prop}
  (opens : ∀ (workspace : Workspace) document host language line,
    kept workspace.settings (workspace.opened document host language line))
  (turns : ∀ settings session exchanges after, kept settings session →
    Session.Turn session exchanges after → kept settings after)

include opens turns

/-- What holds of a session just connected and is kept by every turn is kept by every move. -/
theorem Everywhere.perform (everywhere : workspace.Everywhere (kept workspace.settings))
    (numbered : workspace.Numbered) (move : Move) :
    (workspace.perform move).Everywhere (kept (workspace.perform move).settings) := by
  intro number session there
  rw [(workspace.perform_onward move).1]
  by_cases inside : number < workspace.sessions.length
  · have before := List.getElem?_eq_getElem inside
    obtain ⟨after, arrived, course⟩ := leads_perform before move
    obtain rfl : after = session := Option.some.inj (arrived.symm.trans there)
    exact course.keeps (turns workspace.settings) (everywhere number _ before)
  · have absent : workspace.sessions[number]? = none :=
      List.getElem?_eq_none_iff.mpr (Nat.le_of_not_lt inside)
    obtain ⟨document, host, language, line, -, rfl⟩ := perform_newSession numbered there absent
    exact opens workspace document host language line

/-- What holds of a session just connected and is kept by every turn is kept by every run. -/
theorem Everywhere.run (everywhere : workspace.Everywhere (kept workspace.settings))
    (numbered : workspace.Numbered) (moves : List Move) :
    (workspace.run moves).Everywhere (kept (workspace.run moves).settings) := by
  induction moves generalizing workspace with
  | nil => exact everywhere
  | cons move rest inductionHypothesis =>
    exact inductionHypothesis (everywhere.perform opens turns numbered move)
      (numbered.perform move)

/-- What holds of a session just connected and is kept by every turn holds of every session of a
workspace that came about from one without documents. -/
theorem Reached.everywhere (reached : workspace.Reached) :
    workspace.Everywhere (kept workspace.settings) := by
  obtain ⟨settings, directory, lines, refusal, moves, rfl⟩ := reached
  have empty : (start settings directory lines refusal).Everywhere (kept settings) := by
    intro number session there
    cases there
  exact empty.run opens turns (numbered_start settings directory lines refusal) moves

end Everywhere

end Workspace

end Typeahead

import Typeahead.Proofs.Workspace.Outstanding

/-!
# What can be seen of a session

A session holds two things that say nothing about its document: the number of its host,
which depends on what else is open, and the moment at which an edit under way is due, which
depends on when it was asked for. `Session.seenAt` gives the session another number for its
host and forgets that moment. Whatever is done to a session can be done to what is seen of
it, with what is seen of the result: an edit that is due at some moment is due at moment 0
in what is seen, and no other moment counts for a session without a timeout.
-/

namespace Typeahead

/-- A worker with an edit under way, without the moment at which it is due. -/
def Worker.undated : Worker → Worker
  | .editing operation _ effects => .editing operation 0 effects
  | worker => worker

/-- A worker that has stopped is seen to have stopped, and no other one is. -/
theorem Worker.undated_finished (worker : Worker) :
    worker.undated = .finished ↔ worker = .finished := by
  cases worker <;> simp [undated]

namespace Session

/-- What can be seen of a session when its host has the number `place`. -/
def seenAt (place : Nat) (session : Session) : Session :=
  { session with host := place, worker := session.worker.undated }

/-- What can be seen of what can be seen is the same. -/
@[simp]
theorem seenAt_seenAt (session : Session) (place : Nat) :
    (session.seenAt place).seenAt place = session.seenAt place := by
  unfold seenAt
  cases session.worker <;> rfl

/-- Sending is seen to be sending. -/
theorem send_seenAt (session : Session) (request : Request) (place : Nat) :
    (session.seenAt place).send request =
      ((session.send request).1.seenAt place, (session.send request).2) := by
  unfold send seenAt
  cases session.outlet.send? request <;> rfl

/-- So is sending several requests. -/
theorem sendAll_seenAt (requests : List Request) (session : Session) (place : Nat) :
    (sendAll requests (session.seenAt place)).1 = (sendAll requests session).1.seenAt place := by
  induction requests generalizing session with
  | nil => rfl
  | cons request rest inductionHypothesis =>
    rw [sendAll, sendAll, send_seenAt]
    rcases session.send request with ⟨sent, fault | accepted⟩
    · rfl
    · exact inductionHypothesis sent

/-- Hearing of a change is seen to be hearing of it. -/
theorem handleChange_seenAt (session : Session) (change : Change) (place : Nat) :
    ((session.seenAt place).handleChange change).1 = (session.handleChange change).1.seenAt place := by
  rw [handleChange_eq, handleChange_eq]
  exact sendAll_seenAt _ session place

/-- Giving the cursor handle back is seen to be that. -/
theorem restoreCursor_seenAt (session : Session) (place : Nat) :
    (session.seenAt place).restoreCursor.1 = session.restoreCursor.1.seenAt place := by
  rw [restoreCursor_eq, restoreCursor_eq]
  exact sendAll_seenAt _ session place

/-- A step of the inbound side is seen to be one. -/
theorem stepIntake_seenAt (session : Session) (place : Nat) :
    (session.seenAt place).stepIntake = session.stepIntake.map (seenAt place) := by
  simp only [stepIntake, seenAt, Worker.undated_finished, Option.map_map]
  rfl

/-- A step of the outbound side is seen to be one. -/
theorem stepOutlet_seenAt (session : Session) (place : Nat) :
    (session.seenAt place).stepOutlet = session.stepOutlet.map (seenAt place) := by
  simp only [stepOutlet, seenAt, Option.map_map]
  rfl

/-- Taking a reply is seen to be taking it. -/
theorem beginReply_seenAt (session : Session) (host : Host) (reply : Reply) (place : Nat) :
    (session.seenAt place).beginReply host reply = (session.beginReply host reply).seenAt place := by
  unfold beginReply
  split <;> rfl

variable {session after : Session} {host hostAfter : Host} {now : Nat} {change : Option Change}

/-- A step of the worker is seen to be one, and at moment 0 it can be taken if it can be taken at
all. -/
theorem stepWorker_seenAt (untimed : session.Untimed)
    (stepped : session.stepWorker host now = some (after, hostAfter, change)) (place : Nat) :
    ∃ seen, (session.seenAt place).stepWorker host 0 = some (seen, hostAfter, change) ∧
      seen.seenAt place = after.seenAt place := by
  -- What is seen of the result is what the step comes to, but for the moment of an edit asked for.
  have result {next : Session} {hostNext : Host} {changeNext : Option Change}
      (seen : (session.seenAt place).stepWorker host 0 =
        some (next.seenAt place, hostNext, changeNext)) :
      ∃ seen, (session.seenAt place).stepWorker host 0 = some (seen, hostNext, changeNext) ∧
        seen.seenAt place = next.seenAt place :=
    ⟨_, seen, seenAt_seenAt next place⟩
  cases stepWorker_cases stepped with
  | waits stage =>
    exact result (by simp [stepWorker, seenAt, stage, Worker.undated, deadlineAt, untimed.patient])
  | stops stage stopping =>
    refine result ?_
    rcases stopping with cancelled | ⟨empty, finished⟩
    · simp [stepWorker, stepParked, seenAt, stage, Worker.undated, cancelled]
    · cases cancelled : session.cancelled <;>
        simp [stepWorker, stepParked, seenAt, stage, Worker.undated, cancelled, empty, finished]
  | takes stage active first =>
    refine result ?_
    rw [← beginReply_seenAt]
    simp [stepWorker, stepParked, seenAt, stage, Worker.undated, active, first]
  | notices stage empty active reading told =>
    exact result (by
      simp [stepWorker, stepParked, seenAt, stage, Worker.undated, active, empty, reading, told])
  | expires stage =>
    have unhurried := untimed.unhurried
    rw [stage] at unhurried
    cases unhurried
  | tells stage => exact result (by simp [stepWorker, seenAt, stage, Worker.undated])
  | @asks effect operation effects stage edits =>
    refine ⟨{ session.seenAt place with
      worker := .editing operation (0 + host.editDelay) effects }, ?_, rfl⟩
    cases effect with
    | showError report => cases edits
    | replace | insert | delete =>
      obtain rfl := Option.some.inj edits
      simp [stepWorker, seenAt, stage, Worker.undated]
  | edits stage performed =>
    exact result (by simp [stepWorker, seenAt, stage, Worker.undated, performed])
  | passesOver stage refused =>
    exact result (by simp [stepWorker, seenAt, stage, Worker.undated, refused])
  | ends stage => exact result (by simp [stepWorker, seenAt, stage, Worker.undated])

/-- An operation that leaves a session with its document and host, and does to what can be seen of a
session what it does to the session. -/
structure Visible (operation : Session → Session) : Prop where
  document : ∀ session, (operation session).document = session.document
  host : ∀ session, (operation session).host = session.host
  seen : ∀ session place, operation (session.seenAt place) = (operation session).seenAt place

/-- Sending several requests is visible. -/
theorem visible_sendAll (requests : List Request) :
    Visible fun session => (sendAll requests session).1 := by
  refine ⟨fun session => ?_, fun session => ?_, sendAll_seenAt requests⟩ <;>
  · obtain ⟨_, _, _, _, sent⟩ := sendAll_kept requests session
    rw [sent]

/-- Sending is visible. -/
theorem visible_send (request : Request) : Visible fun session => (session.send request).1 := by
  simp only [← sendAll_single]
  exact visible_sendAll [request]

/-- Hearing of a change is visible. -/
theorem visible_handleChange (change : Change) :
    Visible fun session => (session.handleChange change).1 := by
  refine ⟨fun session => ?_, fun session => ?_,
    fun session place => handleChange_seenAt session change place⟩ <;>
  · rw [handleChange_eq]
    first
    | exact (visible_sendAll _).document session
    | exact (visible_sendAll _).host session

/-- Giving the cursor handle back is visible. -/
theorem visible_restoreCursor : Visible fun session => session.restoreCursor.1 := by
  refine ⟨fun session => ?_, fun session => ?_, restoreCursor_seenAt⟩ <;>
  · rw [restoreCursor_eq]
    first
    | exact (visible_sendAll _).document session
    | exact (visible_sendAll _).host session

/-- What happens to the inbound side alone is visible. -/
theorem visible_inbound (change : Intake → Intake) :
    Visible fun session => { session with intake := change session.intake } :=
  ⟨fun _ => rfl, fun _ => rfl, fun _ _ => rfl⟩

/-- The engine writes to a session, unless one of the two ends of the connection is gone. -/
def written (content : Bytes) (session : Session) : Session :=
  if session.outlet.sink.isCut ∨ (session.intake.finished ∧ session.outlet.finished) then session
  else { session with intake := session.intake.receiveBytes content }

/-- That is visible. -/
theorem visible_written (content : Bytes) : Visible (written content) := by
  refine ⟨fun session => ?_, fun session => ?_, fun session place => ?_⟩
  case refine_1 | refine_2 =>
    unfold written
    split <;> rfl
  case refine_3 =>
    by_cases gone : session.outlet.sink.isCut ∨ (session.intake.finished ∧ session.outlet.finished)
    · rw [written, written, if_pos gone]
      exact if_pos gone
    · rw [written, written, if_neg gone]
      exact if_neg gone

/-- The engine drops its end of a session's connection. -/
def hungUp (session : Session) : Session :=
  { session with
    intake := session.intake.close
    outlet := { session.outlet with sink := session.outlet.sink.cut } }

/-- That is visible. -/
theorem visible_hungUp : Visible hungUp :=
  ⟨fun _ => rfl, fun _ => rfl, fun _ _ => rfl⟩

/-- Being told to stop is visible. -/
theorem visible_cancel : Visible cancel :=
  ⟨fun _ => rfl, fun _ => rfl, fun _ _ => rfl⟩

end Session

namespace Workspace

/-- Do something to the session of a number, if there is one. -/
def alter (workspace : Workspace) (number : Nat) (operation : Session → Session) : Workspace :=
  { workspace with sessions := workspace.sessions.modify number operation }

variable {workspace : Workspace} {number : Nat} {operation : Session → Session}

/-- A session that is there is altered in its place. -/
theorem alter_present {session : Session} (present : workspace.sessions[number]? = some session) :
    workspace.alter number operation = workspace.setSession number (operation session) := by
  rw [alter, List.modify_eq_set_getElem?, present]
  rfl

/-- Without a session of the number there is nothing to alter. -/
theorem alter_absent (absent : workspace.sessions[number]? = none) :
    workspace.alter number operation = workspace := by
  rw [alter, List.modify_eq_set_getElem?, absent]
  rfl

/-- Telling a session to stop alters it. -/
theorem cancel_eq_alter (workspace : Workspace) (number : Nat) :
    workspace.cancel number = workspace.alter number Session.cancel :=
  rfl

/-- Telling a session of a change alters it. -/
theorem tellSession_eq_alter (workspace : Workspace) (number : Nat) (change : Change) :
    (workspace.tellSession number change).1 =
      workspace.alter number fun session => (session.handleChange change).1 := by
  unfold tellSession
  split
  · next absent => exact (alter_absent absent).symm
  · next present =>
    rw [alter_present present]

/-- The session that a move is for, and what the move does to it, if it does nothing else. -/
def Move.alteration? : Move → Option (Nat × (Session → Session))
  | .tell number change => some (number, fun session => (session.handleChange change).1)
  | .sendBy number request => some (number, fun session => (session.send request).1)
  | .restoreCursor number => some (number, fun session => session.restoreCursor.1)
  | .deliver number content => some (number, Session.written content)
  | .arrive number arrivals =>
    some (number, fun session => { session with intake := session.intake.receive arrivals })
  | .endInbound number =>
    some (number, fun session => { session with intake := session.intake.close })
  | .hangUp number => some (number, Session.hungUp)
  | .cancel number => some (number, Session.cancel)
  | _ => none

/-- What such a move does to a session is visible. -/
theorem Move.alteration?_visible {move : Move} (alters : move.alteration? = some (number, operation)) :
    Session.Visible operation := by
  cases move with
  | tell number change =>
    cases alters
    exact Session.visible_handleChange change
  | sendBy number request =>
    cases alters
    exact Session.visible_send request
  | restoreCursor number =>
    cases alters
    exact Session.visible_restoreCursor
  | deliver number content =>
    cases alters
    exact Session.visible_written content
  | arrive number arrivals =>
    cases alters
    exact Session.visible_inbound (·.receive arrivals)
  | endInbound number =>
    cases alters
    exact Session.visible_inbound Intake.close
  | hangUp number =>
    cases alters
    exact Session.visible_hungUp
  | cancel number =>
    cases alters
    exact Session.visible_cancel
  | _ => cases alters

/-- A move for a session that is there alters this session. -/
theorem perform_alteration {session : Session} {move : Move}
    (alters : move.alteration? = some (number, operation))
    (present : workspace.sessions[number]? = some session) :
    workspace.perform move = workspace.setSession number (operation session) := by
  cases move with
  | tell | sendBy | restoreCursor | arrive | endInbound | hangUp =>
    cases alters
    simp only [perform, tellSession, sendBy, Workspace.restoreCursor, withIntake, hangUp, present,
      Session.hungUp]
  | deliver number content =>
    cases alters
    simp only [perform, deliver, present, Session.written]
    split
    · obtain ⟨inside, rfl⟩ := List.getElem?_eq_some_iff.mp present
      rw [setSession, List.set_getElem_self]
    · rfl
  | cancel =>
    cases alters
    rw [← alter_present present]
    rfl
  | _ => cases alters

end Workspace

end Typeahead

import Typeahead.Proofs.Session.Course
import Typeahead.Proofs.Session.Desk

/-!
# Replies as a plain fold

To answer a reply is to read where edits go by, to let the reply have its effect on the
completion, to carry out what it asks for on the host, one thing after another, and to tell
the host that it is done (`Station.answer`). A session does the same in many steps, between
which its host takes its time. Its *station* is what comes out when the worker is done with
the reply at hand; every step of the worker leaves it as it is, but for the one that takes a
reply, which answers it (`WorkerStep.station`).

Unlike a desk, a station is defined for every host, also for one that refuses edits, does
not tell the cursor, or pays no heed to the end of a reply.
-/

namespace Typeahead

namespace Host

/-- The host after an edit that a session asks for, which it may refuse. -/
def editedFor (host : Host) (operation : Buffer.Operation) : Host :=
  match host.editFor operation with
  | .error _ => host
  | .ok (edited, _) => edited

/-- The host after it has carried out an effect. -/
def carryOut (host : Host) : Effect → Host
  | .showError report => host.tell report
  | .replace start stop text => host.editedFor (.replace start stop text)
  | .insert offset text => host.editedFor (.insert offset text)
  | .delete start stop => host.editedFor (.delete start stop)

/-- An effect that has the buffer do something is carried out by an edit. -/
theorem carryOut_edit (host : Host) {effect : Effect} {operation : Buffer.Operation}
    (edits : effect.operation? = some operation) :
    host.carryOut effect = host.editedFor operation := by
  cases effect with
  | showError report => cases edits
  | replace | insert | delete =>
    obtain rfl := Option.some.inj edits
    rfl

end Host

/-- A completion with the host that it works on. -/
structure Station where
  completion : Completion
  host : Host
deriving DecidableEq

namespace Station

/-- Answer a reply. When the host does not tell the cursor, the reply is dropped. -/
def answer (station : Station) (reply : Reply) : Station :=
  match station.host.cursor with
  | .error _ => ⟨station.completion.expireWait, station.host.replyApplied⟩
  | .ok cursor =>
    let (completion, effects) := station.completion.apply reply cursor
    ⟨completion, (effects.foldl Host.carryOut station.host).replyApplied⟩

/-- Answer replies, one after another. -/
def answerAll (station : Station) (replies : List Reply) : Station :=
  replies.foldl answer station

end Station

/-- The host when the worker is done with the reply at hand. -/
def Worker.finish (worker : Worker) (host : Host) : Host :=
  match worker with
  | .applying effects => (effects.foldl Host.carryOut host).replyApplied
  | .editing operation _ effects =>
    (effects.foldl Host.carryOut (host.editedFor operation)).replyApplied
  | _ => host

namespace Session

/-- The station that is left when the worker is done with the reply at hand. -/
def station (session : Session) (host : Host) : Station :=
  ⟨session.completion.expireWait, session.worker.finish host⟩

variable {session next : Session} {host hostAfter : Host} {now : Nat} {change : Option Change}

/-- A session that is in the middle of no reply has nothing to finish. -/
theorem station_of_resting (resting : session.worker.isApplying = false) (host : Host) :
    session.station host = ⟨session.completion.expireWait, host⟩ := by
  unfold station
  cases stage : session.worker with
  | applying | editing =>
    rw [stage] at resting
    cases resting
  | _ => rfl

/-- Taking a reply is answering it. -/
theorem beginReply_station (session : Session) (host : Host) (reply : Reply) :
    (session.beginReply host reply).station host =
      Station.answer ⟨session.completion.expireWait, host⟩ reply := by
  unfold beginReply Station.answer
  cases host.cursor with
  | error fault => rfl
  | ok cursor =>
    simp only [Completion.apply_expireWait, station, Completion.expireWait_apply, Worker.finish]

/-- Every step of the worker answers the reply that it takes, if it takes one. -/
theorem WorkerStep.station (step : session.WorkerStep host now next hostAfter change) :
    next.station hostAfter = (session.station host).answerAll session.taking?.toList := by
  have rests (idle : session.taking? = none)
      (same : next.station hostAfter = session.station host) :
      next.station hostAfter = (session.station host).answerAll session.taking?.toList := by
    rw [idle]
    exact same
  cases step with
  | waits stage =>
    exact rests (by simp [taking?, stage]) (by simp [Session.station, stage, Worker.finish])
  | stops stage stopping =>
    exact rests (taking?_of_stopping stopping) (by simp [Session.station, stage, Worker.finish])
  | takes stage active first =>
    rw [beginReply_station, taking?_of_first stage active first,
      station_of_resting (by rw [stage]; rfl)]
    rfl
  | notices stage empty =>
    exact rests (taking?_of_empty empty) (by simp [Session.station, stage, Worker.finish])
  | expires stage empty =>
    exact rests (taking?_of_empty empty)
      (by simp [Session.station, stage, Worker.finish, Completion.expireWait])
  | tells stage =>
    exact rests (by simp [taking?, stage])
      (by simp [Session.station, stage, Worker.finish, Host.carryOut])
  | asks stage edits =>
    exact rests (by simp [taking?, stage])
      (by simp [Session.station, stage, Worker.finish, Host.carryOut_edit _ edits])
  | edits stage performed =>
    exact rests (by simp [taking?, stage])
      (by simp [Session.station, stage, Worker.finish, Host.editedFor, performed])
  | passesOver stage refused =>
    exact rests (by simp [taking?, stage])
      (by simp [Session.station, stage, Worker.finish, Host.editedFor, refused])
  | ends stage =>
    exact rests (by simp [taking?, stage]) (by simp [Session.station, stage, Worker.finish])

/-- The worker takes a reply from the head of the queue, or it leaves the inbound side as it is. -/
theorem WorkerStep.intake (step : session.WorkerStep host now next hostAfter change) :
    session.taking? = none ∧ next.intake = session.intake ∨
      ∃ reply queue, session.taking? = some reply ∧ session.intake.queue = reply :: queue ∧
        next.intake = { session.intake with queue } := by
  cases step with
  | takes stage active first =>
    exact .inr ⟨_, _, taking?_of_first stage active first, first, (beginReply_goesOn _ _ _).1⟩
  | waits stage | tells stage | asks stage | edits stage | passesOver stage | ends stage =>
    exact .inl ⟨by simp [taking?, stage], rfl⟩
  | notices stage empty | expires stage empty => exact .inl ⟨taking?_of_empty empty, rfl⟩
  | stops stage stopping => exact .inl ⟨taking?_of_stopping stopping, rfl⟩

/-- The worker leaves a session with its host, and does not tell it to stop. -/
theorem WorkerStep.kept (step : session.WorkerStep host now next hostAfter change) :
    next.host = session.host ∧ next.cancelled = session.cancelled := by
  cases step with
  | takes =>
    unfold beginReply
    split <;> exact ⟨rfl, rfl⟩
  | _ => exact ⟨rfl, rfl⟩

end Session

end Typeahead

import Typeahead.Session.Basic

/-!
# The work of a session

Each of a session's workers proceeds in small steps, and between any two of them the
other workers, the user and the engine may act. A step is given the time; it has no
result while its worker has to wait.

The applying worker sets a deadline when it begins to wait and an answer is
outstanding; a deadline already running stays. While it waits it heeds, in this order,
that the session was told to stop, the next reply, the end of the replies, news of a
request, and the deadline. It takes a reply under lock, asks the host for the cursor,
and performs the effects one after another; an edit that the host refuses is passed
over. When the host does not tell the cursor, the reply is dropped and the wait for it
ends.
-/

namespace Typeahead.Session

/-- The next step of the inbound side. -/
def stepIntake (session : Session) : Option Session :=
  (session.intake.step session.cancelled (session.worker = .finished)).map
    fun intake => { session with intake }

/-- The next step of the outbound side. -/
def stepOutlet (session : Session) : Option Session :=
  (session.outlet.step session.cancelled).map fun outlet => { session with outlet }

/-- The deadline with which a wait begins at `now`: the one already running, or a new
    one, as long as an answer is outstanding and does not have all the time there is. -/
def deadlineAt (session : Session) (now : Nat) (running : Option Nat) : Option Nat :=
  if session.isAwaitingReply then session.timeout.map fun time => running.getD (now + time)
  else none

/-- Begin to apply a reply that has been taken from the queue. -/
def beginReply (session : Session) (host : Host) (reply : Reply) : Session :=
  match host.cursor with
  | .error _ =>
    { session with
      locked := true, completion := session.completion.expireWait, worker := .applying [] }
  | .ok cursor =>
    let (completion, effects) := session.completion.apply reply cursor
    { session with locked := true, completion, worker := .applying effects }

/-- A step of the applying worker while it waits. -/
def stepParked (session : Session) (host : Host) (now : Nat) (deadline : Option Nat) :
    Option Session :=
  if session.cancelled then some { session with worker := .finished }
  else
    match session.intake.queue with
    | reply :: queue =>
      some (beginReply { session with intake := { session.intake with queue } } host reply)
    | [] =>
      if session.intake.finished then some { session with worker := .finished }
      else if session.news then some { session with news := false, worker := .turning deadline }
      else
        match deadline with
        | none => none
        | some due =>
          if due ≤ now then
            some { session with
              completion := session.completion.expireWait, worker := .turning none }
          else none

/-- The next step of the applying worker, with the host after it and the change of the
    document to report, if the step edited it. -/
def stepWorker (session : Session) (host : Host) (now : Nat) :
    Option (Session × Host × Option Change) :=
  match session.worker with
  | .turning running =>
    some ({ session with worker := .parked (session.deadlineAt now running) }, host, none)
  | .parked deadline => (session.stepParked host now deadline).map (·, host, none)
  | .applying [] =>
    some ({ session with locked := false, worker := .turning none },
      host.replyApplied, none)
  | .applying (effect :: effects) =>
    let await operation :=
      some ({ session with
        worker := .editing operation (now + host.editDelay) effects }, host, none)
    match effect with
    | .showError report =>
      some ({ session with worker := .applying effects }, host.tell report, none)
    | .replace start stop text => await (.replace start stop text)
    | .insert offset text => await (.insert offset text)
    | .delete start stop => await (.delete start stop)
  | .editing operation due effects =>
    if due ≤ now then
      let after := { session with worker := .applying effects }
      match host.editFor operation with
      | .error _ => some (after, host, none)
      | .ok (host, change) => some (after, host, change)
    else none
  | .finished => none

/-- How many effects of the reply at hand are left, with the edit that the host is at work on. -/
def effectsLeft (session : Session) : Nat :=
  match session.worker with
  | .applying effects => effects.length
  | .editing _ _ effects => effects.length + 1
  | _ => 0

/-- The time for which the applying worker waits, if it waits for one. -/
def timer? (session : Session) : Option Nat :=
  match session.worker with
  | .parked deadline => deadline
  | .editing _ due _ => some due
  | _ => none

end Typeahead.Session

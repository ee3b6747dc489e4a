import Typeahead.Workspace.Basic

/-!
# Running a workspace

The sessions of a workspace take their steps in any order; `act` is one step of one of
them. `settle` lets them act until all of them wait, which needs no time, and `advance`
lets time pass, stopping at every moment for which somebody waits.

Ending a session takes the time that its host still needs for an edit under way; the
operations at the end of this module tell a session to stop and wait until it has.
-/

namespace Typeahead.Workspace

/-- Those who act in a session. -/
inductive Actor where
  | intake
  | outlet
  | worker
deriving Repr, DecidableEq

/-- One step of one actor of a session, unless it has to wait. An edit is reported as soon
    as it is made, while the session that makes it is still locked. -/
def act (workspace : Workspace) (number : Nat) (actor : Actor) : Option Workspace := do
  let session ← workspace.sessions[number]?
  match actor with
  | .intake => return workspace.setSession number (← session.stepIntake)
  | .outlet => return workspace.setSession number (← session.stepOutlet)
  | .worker =>
    let host ← workspace.hosts[session.host]?
    let (after, host, change) ← session.stepWorker host workspace.clock
    return ((workspace.setSession number after).setHost session.host host).report host change

/-- A step of whoever is first able to take one. -/
def step (workspace : Workspace) : Option Workspace :=
  (List.range workspace.sessions.length).findSome? fun number =>
    (workspace.act number .intake).or
      ((workspace.act number .outlet).or (workspace.act number .worker))

/-- Take steps until everybody waits, at most `count` of them. -/
def settleWithin : Nat → Workspace → Workspace
  | 0, workspace => workspace
  | count + 1, workspace =>
    match workspace.step with
    | none => workspace
    | some next => settleWithin count next

/-- A bound on the steps that can be taken before a document is edited. Each reply still to
    come takes a few steps, and so does each request and each effect that is left. -/
def effort (workspace : Workspace) : Nat :=
  (workspace.sessions.map fun session =>
    9 * session.intake.effort + 8 * session.intake.queue.length + session.outlet.queue.length +
      3 * session.effectsLeft + 12).foldr (· + ·) 0

/-- A bound on the edits that can be made before something arrives: each reply still to come
    asks for one at most. -/
def edits (workspace : Workspace) : Nat :=
  (workspace.sessions.map fun session =>
    session.intake.effort + session.intake.queue.length + session.effectsLeft).foldr (· + ·) 0

/-- Take steps until everybody waits, through at most `count` edits. An edit can become a
    request for every character of the document, so the steps are counted afresh behind it. -/
def settleThrough : Nat → Workspace → Workspace
  | 0, workspace => settleWithin workspace.effort workspace
  | count + 1, workspace =>
    let later := settleWithin workspace.effort workspace
    if later.step.isNone then later else settleThrough count later

/-- Take steps until everybody waits. -/
def settle (workspace : Workspace) : Workspace :=
  settleThrough workspace.edits workspace

/-- The earliest moment for which somebody waits. -/
def timer? (workspace : Workspace) : Option Nat :=
  (workspace.sessions.filterMap Session.timer?).min?

/-- Let time pass up to `target`, stopping for at most `count` moments on the way. -/
def advanceWithin : Nat → Workspace → Nat → Workspace
  | 0, workspace, target => { workspace with clock := target }
  | count + 1, workspace, target =>
    match workspace.timer? with
    | none => { workspace with clock := target }
    | some due =>
      if target < due then { workspace with clock := target }
      else
        advanceWithin count (settle { workspace with clock := max workspace.clock due }) target

/-- Let time pass. After everybody has acted at a moment, the next one lies later. -/
def advance (workspace : Workspace) (time : Nat) : Workspace :=
  advanceWithin (time + 1) workspace (workspace.clock + time)

/-- Wait until a session that was told to stop has stopped, letting the host finish at most
    `count` edits. -/
def awaitWithin : Nat → Workspace → Nat → Workspace
  | 0, workspace, _ => workspace
  | count + 1, workspace, number =>
    let settled := workspace.settle
    match settled.sessions[number]?.map Session.worker with
    | some (.editing _ due _) =>
      awaitWithin count (settled.advance (due - settled.clock)) number
    | _ => settled

/-- Wait until a session that was told to stop has stopped. -/
def awaitEnd (workspace : Workspace) (number : Nat) : Workspace :=
  let edits := (workspace.sessions[number]?.map Session.effectsLeft).getD 0
  awaitWithin (edits + 1) workspace number

/-- End a session. -/
def close (workspace : Workspace) (number : Nat) : Workspace :=
  (workspace.cancel number).awaitEnd number

/-- Connect a document and wait until the session it had before has stopped. -/
def replace (workspace : Workspace) (document : DocumentId) (host : Nat) (language : Text) :
    Workspace × Except Fault Unit :=
  match workspace.activate document host language with
  | (workspace, .error fault) => (workspace, .error fault)
  | (workspace, .ok previous) => (previous.elim workspace workspace.awaitEnd, .ok ())

/-- End the session of a document. The result tells whether there was one. -/
def deactivate (workspace : Workspace) (document : DocumentId) : Workspace × Bool :=
  match workspace.registered? document with
  | none => (workspace, false)
  | some number => ((workspace.forget document).close number, true)

/-- End every session, one after another. -/
def shutdown (workspace : Workspace) : Workspace :=
  (workspace.active.filterMap workspace.registered?).foldl close
    { workspace with registered := [] }

end Typeahead.Workspace

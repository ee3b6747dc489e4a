import Typeahead.Session.Step

/-!
# The steps of the applying worker

`WorkerStep` lists what a step of the applying worker can be, each with what it needs and
all that it does to the session and its host; `stepWorker_cases` says that there is no
other. What such a step keeps or changes is a case analysis of these.
-/

namespace Typeahead

/-- What an effect has a buffer do. -/
def Effect.operation? : Effect → Option Buffer.Operation
  | .replace start stop text => some (.replace start stop text)
  | .insert offset text => some (.insert offset text)
  | .delete start stop => some (.delete start stop)
  | .showError _ => none

/-- Whether the worker is in the middle of applying a reply. -/
def Worker.isApplying : Worker → Bool
  | .applying _ => true
  | .editing _ _ _ => true
  | _ => false

namespace Session

/-- The reply that the worker takes with its next step, if it takes one. -/
def taking? (session : Session) : Option Reply :=
  match session.worker with
  | .parked _ => if session.cancelled then none else session.intake.queue.head?
  | _ => none

/-- A step of the applying worker: the session and the host after it, and the change of the document
that it reports. -/
inductive WorkerStep (session : Session) (host : Host) (now : Nat) :
    Session → Host → Option Change → Prop where
  /-- The worker begins to wait. -/
  | waits {running : Option Nat} (turning : session.worker = .turning running) :
      WorkerStep session host now
        { session with worker := .parked (session.deadlineAt now running) } host none
  /-- The worker stops: it was told to, or no reply is left and none will come. -/
  | stops {deadline : Option Nat} (parked : session.worker = .parked deadline)
      (stopping : session.cancelled = true ∨
        session.intake.queue = [] ∧ session.intake.finished = true) :
      WorkerStep session host now { session with worker := .finished } host none
  /-- The worker takes a reply. -/
  | takes {deadline : Option Nat} {reply : Reply} {queue : List Reply}
      (parked : session.worker = .parked deadline) (active : session.cancelled = false)
      (first : session.intake.queue = reply :: queue) :
      WorkerStep session host now
        (beginReply { session with intake := { session.intake with queue } } host reply) host none
  /-- The worker takes notice of a request. -/
  | notices {deadline : Option Nat} (parked : session.worker = .parked deadline)
      (empty : session.intake.queue = []) (active : session.cancelled = false)
      (reading : session.intake.finished = false) (told : session.news = true) :
      WorkerStep session host now { session with news := false, worker := .turning deadline } host
        none
  /-- The worker has waited long enough. -/
  | expires {due : Nat} (parked : session.worker = .parked (some due))
      (empty : session.intake.queue = []) (active : session.cancelled = false)
      (reading : session.intake.finished = false) (untold : session.news = false)
      (late : due ≤ now) :
      WorkerStep session host now
        { session with completion := session.completion.expireWait, worker := .turning none } host
        none
  /-- The worker has the host tell the user what the engine reports. -/
  | tells {report : Text} {effects : List Effect}
      (applying : session.worker = .applying (.showError report :: effects)) :
      WorkerStep session host now { session with worker := .applying effects } (host.tell report)
        none
  /-- The worker asks the host for an edit. -/
  | asks {effect : Effect} {operation : Buffer.Operation} {effects : List Effect}
      (applying : session.worker = .applying (effect :: effects))
      (edits : effect.operation? = some operation) :
      WorkerStep session host now
        { session with worker := .editing operation (now + host.editDelay) effects } host none
  /-- The host has made the edit. -/
  | edits {operation : Buffer.Operation} {due : Nat} {effects : List Effect} {edited : Host}
      {change : Option Change} (editing : session.worker = .editing operation due effects)
      (performed : host.editFor operation = .ok (edited, change)) (late : due ≤ now) :
      WorkerStep session host now { session with worker := .applying effects } edited change
  /-- The host has refused the edit. -/
  | passesOver {operation : Buffer.Operation} {due : Nat} {effects : List Effect} {refusal : Fault}
      (editing : session.worker = .editing operation due effects)
      (refused : host.editFor operation = .error refusal) (late : due ≤ now) :
      WorkerStep session host now { session with worker := .applying effects } host none
  /-- The worker is done with a reply. -/
  | ends (applying : session.worker = .applying []) :
      WorkerStep session host now { session with locked := false, worker := .turning none }
        host.replyApplied none

variable {session next : Session} {host hostAfter : Host} {now : Nat} {change : Option Change}

/-- Without a reply there is none to take. -/
theorem taking?_of_empty (empty : session.intake.queue = []) : session.taking? = none := by
  unfold taking?
  split
  · rw [empty, List.head?_nil, ite_self]
  · rfl

/-- A worker that stops takes no reply. -/
theorem taking?_of_stopping (stopping : session.cancelled = true ∨
    session.intake.queue = [] ∧ session.intake.finished = true) : session.taking? = none := by
  rcases stopping with cancelled | ⟨empty, -⟩
  · unfold taking?
    split
    · rw [cancelled, if_pos rfl]
    · rfl
  · exact taking?_of_empty empty

/-- A worker that waits takes the next reply of a session at work. -/
theorem taking?_of_first {deadline : Option Nat} {reply : Reply} {queue : List Reply}
    (parked : session.worker = .parked deadline) (active : session.cancelled = false)
    (first : session.intake.queue = reply :: queue) : session.taking? = some reply := by
  simp [taking?, parked, active, first]

/-- What the worker does while it waits. -/
theorem stepParked_cases {deadline : Option Nat} (parked : session.worker = .parked deadline)
    (stepped : session.stepParked host now deadline = some next) :
    session.WorkerStep host now next host none := by
  unfold stepParked at stepped
  split at stepped
  · next cancelled =>
    cases stepped
    exact .stops parked (.inl cancelled)
  · next unstopped =>
    have active : session.cancelled = false := eq_false_of_ne_true unstopped
    cases queue : session.intake.queue with
    | cons reply rest =>
      simp only [queue, Option.some.injEq] at stepped
      subst stepped
      exact .takes parked active queue
    | nil =>
      simp only [queue] at stepped
      split at stepped
      · next finished =>
        cases stepped
        exact .stops parked (.inr ⟨queue, finished⟩)
      · next unfinished =>
        have reading : session.intake.finished = false := eq_false_of_ne_true unfinished
        split at stepped
        · next told =>
          cases stepped
          exact .notices parked queue active reading told
        · next untold =>
          cases deadline with
          | none => cases stepped
          | some due =>
            simp only at stepped
            split at stepped
            · next late =>
              cases stepped
              exact .expires parked queue active reading (eq_false_of_ne_true untold) late
            · cases stepped

/-- Every step of the applying worker is one of these. -/
theorem stepWorker_cases (stepped : session.stepWorker host now = some (next, hostAfter, change)) :
    session.WorkerStep host now next hostAfter change := by
  unfold stepWorker at stepped
  cases stage : session.worker with
  | turning running =>
    simp only [stage, Option.some.injEq, Prod.mk.injEq] at stepped
    obtain ⟨rfl, rfl, rfl⟩ := stepped
    exact .waits stage
  | parked deadline =>
    simp only [stage, Option.map_eq_some_iff, Prod.mk.injEq] at stepped
    obtain ⟨_, waited, rfl, rfl, rfl⟩ := stepped
    exact stepParked_cases stage waited
  | applying effects =>
    cases effects with
    | nil =>
      simp only [stage, Option.some.injEq, Prod.mk.injEq] at stepped
      obtain ⟨rfl, rfl, rfl⟩ := stepped
      exact .ends stage
    | cons effect effects =>
      cases effect with
      | showError report =>
        simp only [stage, Option.some.injEq, Prod.mk.injEq] at stepped
        obtain ⟨rfl, rfl, rfl⟩ := stepped
        exact .tells stage
      | replace | insert | delete =>
        simp only [stage, Option.some.injEq, Prod.mk.injEq] at stepped
        obtain ⟨rfl, rfl, rfl⟩ := stepped
        exact .asks stage rfl
  | editing operation due effects =>
    simp only [stage] at stepped
    split at stepped
    · next late =>
      cases outcome : host.editFor operation with
      | error refusal =>
        simp only [outcome, Option.some.injEq, Prod.mk.injEq] at stepped
        obtain ⟨rfl, rfl, rfl⟩ := stepped
        exact .passesOver stage outcome late
      | ok result =>
        obtain ⟨edited, made⟩ := result
        simp only [outcome, Option.some.injEq, Prod.mk.injEq] at stepped
        obtain ⟨rfl, rfl, rfl⟩ := stepped
        exact .edits stage outcome late
    · cases stepped
  | finished => simp [stage] at stepped

end Session

end Typeahead

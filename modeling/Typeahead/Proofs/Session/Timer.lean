import Typeahead.Proofs.Session.Course

/-!
# The timer of a session

While the worker stands between two replies, a deadline may run for the answer that is
outstanding. It is set when the worker begins to wait, one timeout ahead, and it goes on when the
worker takes notice of a request (`WorkerStep.deadline`). The timer fires, `TimesOut`, when the
deadline has come and nothing else is left for the worker to heed; of all steps that end the wait
without a reply there is this one (`WorkerStep.awaits_iff`).

`Timed` says what is known of a session whatever has happened to it. A deadline runs only while an
answer is outstanding. Nobody may have told the worker of a request, but then its wait has a
deadline already or the session was told to stop: a request is refused, and the worker not told of
it, only by an outbound side that has stopped, and it stops for no other reason.
-/

namespace Typeahead

/-- The deadline that runs while the worker is between two replies. -/
def Worker.deadline? : Worker → Option Nat
  | .turning deadline => deadline
  | .parked deadline => deadline
  | _ => none

namespace Session

/-- The timer fires: with its next step the worker gives up the wait for an answer. -/
structure TimesOut (session : Session) (now : Nat) : Prop where
  late : ∃ due ≤ now, session.worker = .parked (some due)
  active : session.cancelled = false
  empty : session.intake.queue = []
  reading : session.intake.finished = false
  untold : session.news = false

variable {session next : Session} {host hostAfter : Host} {now : Nat} {change : Option Change}
  {limit : Option Nat}

/-- When the timer fires, the wait for an answer is over, and a new one begins. Nothing else
changes. -/
theorem TimesOut.step (out : session.TimesOut now) (host : Host) :
    session.stepWorker host now =
      some ({ session with completion := session.completion.expireWait, worker := .turning none },
        host, none) := by
  obtain ⟨⟨due, late, stage⟩, active, empty, reading, untold⟩ := out
  simp [stepWorker, stage, stepParked, active, empty, reading, untold, late]

/-- A step of the worker that takes no reply ends the wait for an answer just when the timer
fires. -/
theorem WorkerStep.awaits_iff (step : session.WorkerStep host now next hostAfter change)
    (awaiting : session.isAwaitingReply = true) (nothing : session.taking? = none) :
    next.isAwaitingReply = false ↔ session.TimesOut now := by
  have goesOn : next.completion = session.completion → ¬ session.TimesOut now →
      (next.isAwaitingReply = false ↔ session.TimesOut now) := by
    intro same still
    have awaits : next.isAwaitingReply = true := by
      rw [isAwaitingReply, same]
      exact awaiting
    simp [awaits, still]
  cases step with
  | takes stage active first =>
    rw [taking?_of_first stage active first] at nothing
    cases nothing
  | expires stage empty active reading untold late =>
    exact ⟨fun _ => ⟨⟨_, late, stage⟩, active, empty, reading, untold⟩, fun _ => rfl⟩
  | stops stage stopping =>
    refine goesOn rfl fun out => ?_
    rcases stopping with told | ⟨-, finished⟩
    · exact Bool.false_ne_true (out.active.symm.trans told)
    · exact Bool.false_ne_true (out.reading.symm.trans finished)
  | notices stage empty active reading told =>
    exact goesOn rfl fun out => Bool.false_ne_true (out.untold.symm.trans told)
  | waits stage | tells stage | asks stage | edits stage | passesOver stage | ends stage =>
    refine goesOn rfl fun out => ?_
    obtain ⟨due, -, parked⟩ := out.late
    cases stage.symm.trans parked

/-- A deadline that runs behind a step of the worker ran before, or it has just been set, one
timeout ahead. No reply was taken. -/
theorem WorkerStep.deadline (step : session.WorkerStep host now next hostAfter change) {due : Nat}
    (runs : next.worker.deadline? = some due) :
    session.taking? = none ∧ (session.worker.deadline? = some due ∨
      ∃ time, session.timeout = some time ∧ due = now + time) := by
  cases step with
  | @waits running stage =>
    refine ⟨by simp [taking?, stage], ?_⟩
    simp only [Worker.deadline?, deadlineAt] at runs
    split at runs
    · obtain ⟨time, timed, same⟩ := Option.map_eq_some_iff.mp runs
      cases running with
      | none => exact .inr ⟨time, timed, same.symm⟩
      | some earlier =>
        obtain rfl : earlier = due := same
        exact .inl (by rw [stage]; rfl)
    · cases runs
  | notices stage empty =>
    exact ⟨taking?_of_empty empty, .inl (by rw [stage]; exact runs)⟩
  | takes =>
    unfold beginReply at runs
    split at runs <;> cases runs
  | stops | expires | tells | asks | edits | passesOver | ends => cases runs

/-- What is known of a session's timer whatever has happened to the session. -/
structure Timed (limit : Option Nat) (session : Session) : Prop where
  /-- The session has the timeout of the settings. -/
  time : session.timeout = limit
  /-- A deadline runs only for an answer that is outstanding, and only with a timeout. -/
  awaited : session.worker.deadline? ≠ none → session.isAwaitingReply = true ∧ limit ≠ none
  /-- The outbound side is not closed, and stops only when the session is told to. -/
  sends : session.outlet.closed = false ∧
    (session.outlet.finished = true → session.cancelled = true)
  /-- A worker that waits without a deadline while an answer is outstanding will be told of it. -/
  noticed : limit ≠ none → session.worker = .parked none → session.isAwaitingReply = true →
    session.cancelled = false → session.news = true

namespace Timed

/-- Sending a request keeps the timer in order. The worker is told of a request that the outbound
side takes, and it takes every request until the session is told to stop. -/
theorem send (timed : session.Timed limit) (request : Request) :
    (session.send request).1.Timed limit := by
  obtain ⟨time, awaited, ⟨opened, ending⟩, noticed⟩ := timed
  unfold Session.send
  cases taken : session.outlet.send? request with
  | none =>
    have ended : session.outlet.finished = true := by
      simpa [Outlet.send?, opened] using taken
    refine ⟨time, fun runs => ⟨rfl, (awaited runs).2⟩, ⟨opened, ending⟩, ?_⟩
    intro _ _ _ active
    exact absurd (active.symm.trans (ending ended)) Bool.false_ne_true
  | some outlet =>
    obtain ⟨-, same⟩ : _ ∧ { session.outlet with queue := session.outlet.queue ++ [request] } =
        outlet := by simpa [Outlet.send?] using taken
    subst same
    exact ⟨time, fun runs => ⟨rfl, (awaited runs).2⟩, ⟨opened, ending⟩, fun _ _ _ _ => rfl⟩

/-- So does sending several. -/
theorem sendAll (timed : session.Timed limit) (requests : List Request) :
    (Session.sendAll requests session).1.Timed limit := by
  induction requests generalizing session with
  | nil => exact timed
  | cons request rest inductionHypothesis =>
    have sent := timed.send request
    rw [Session.sendAll]
    split
    · next refused => simpa [refused] using sent
    · next accepted =>
      rw [accepted] at sent
      exact inductionHypothesis sent

/-- The outbound side stops only when the session is told to. -/
theorem outbound (timed : session.Timed limit) {outlet : Outlet}
    (turn : session.outlet.Turn session.cancelled outlet) :
    ({ session with outlet } : Session).Timed limit := by
  obtain ⟨time, awaited, ⟨opened, ending⟩, noticed⟩ := timed
  refine ⟨time, awaited, ?_, noticed⟩
  cases turn with
  | cut => exact ⟨opened, ending⟩
  | worked stepped =>
    unfold Outlet.step at stepped
    split at stepped
    · cases stepped
    · split at stepped
      · next told =>
        cases stepped
        exact ⟨opened, fun _ => told⟩
      · split at stepped
        · cases stepped
          exact ⟨opened, ending⟩
        · split at stepped
          · next closed => exact absurd (opened.symm.trans closed) Bool.false_ne_true
          · cases stepped

/-- Every step of the worker keeps the timer in order. -/
theorem worked (timed : session.Timed limit)
    (step : session.WorkerStep host now next hostAfter change) : next.Timed limit := by
  obtain ⟨time, awaited, sends, noticed⟩ := timed
  cases step with
  | @waits running stage =>
    refine ⟨time, ?_, sends, ?_⟩
    · intro runs
      simp only [Worker.deadline?, deadlineAt] at runs
      split at runs
      · next awaiting =>
        refine ⟨awaiting, ?_⟩
        rintro rfl
        simp [time] at runs
      · exact absurd rfl runs
    · intro timedOut parked awaiting _
      have awaits : session.isAwaitingReply = true := awaiting
      obtain ⟨most, rfl⟩ := Option.ne_none_iff_exists'.mp timedOut
      simp [deadlineAt, awaits, time] at parked
  | takes =>
    unfold beginReply
    split <;> exact ⟨time, fun runs => absurd rfl runs, sends, nofun⟩
  | notices stage =>
    rw [stage] at awaited
    exact ⟨time, awaited, sends, nofun⟩
  | stops | expires | tells | asks | edits | passesOver | ends =>
    exact ⟨time, fun runs => absurd rfl runs, sends, nofun⟩

/-- Whatever happens to a session, its timer stays in order. -/
theorem turn (limit : Option Nat) (session : Session) (exchanges : List Exchange)
    (after : Session) (timed : session.Timed limit) (turn : session.Turn exchanges after) :
    after.Timed limit := by
  cases turn with
  | asked requests => exact timed.sendAll requests
  | inbound => exact ⟨timed.time, timed.awaited, timed.sends, timed.noticed⟩
  | outbound turn => exact timed.outbound turn
  | cancelled =>
    exact ⟨timed.time, timed.awaited, ⟨timed.sends.1, fun _ => rfl⟩, fun _ _ _ => nofun⟩
  | worked stepped => exact timed.worked (stepWorker_cases stepped)

end Timed

end Session

end Typeahead

import Typeahead.Proofs.Engine.Writing
import Typeahead.Proofs.Session.Station

/-!
# A session that was told to stop

A worker in the middle of a reply has some things left to have its host do, its *agenda*: the
edits and reports that the reply asks for, and the end of the reply. Every step of a worker
that takes no reply has the host do the first of them, or nothing (`WorkerStep.agenda`).

A session that was told to stop takes no reply, writes nothing more, and has only so many
steps left (`left`), whatever happens to it in the meantime: `Course.silent`.
-/

namespace Typeahead

/-- What a session has its host do in the course of a reply. -/
inductive Deed where
  /-- The host performs an edit, or refuses it. -/
  | edit (operation : Buffer.Operation)
  /-- The host tells the user what the engine reports. -/
  | tell (report : Text)
  /-- The host hears that the reply is done with. -/
  | finish
deriving Repr, DecidableEq

/-- The host after it has done what it was asked to. -/
def Host.does (host : Host) : Deed → Host
  | .edit operation => host.editedFor operation
  | .tell report => host.tell report
  | .finish => host.replyApplied

/-- What has to be done for an effect. -/
def Effect.deed : Effect → Deed
  | .replace start stop text => .edit (.replace start stop text)
  | .insert offset text => .edit (.insert offset text)
  | .delete start stop => .edit (.delete start stop)
  | .showError report => .tell report

/-- An effect that has the buffer do something asks for an edit. -/
theorem Effect.deed_of_edits {effect : Effect} {operation : Buffer.Operation}
    (edits : effect.operation? = some operation) : effect.deed = .edit operation := by
  cases effect with
  | showError report => cases edits
  | replace | insert | delete =>
    obtain rfl := Option.some.inj edits
    rfl

namespace Worker

/-- What the worker still has the host do for the reply at hand. -/
def agenda : Worker → List Deed
  | .applying effects => effects.map Effect.deed ++ [.finish]
  | .editing operation _ effects => .edit operation :: (effects.map Effect.deed ++ [.finish])
  | _ => []

/-- What the next step of the worker has the host do. -/
def deed? : Worker → Option Deed
  | .applying [] => some .finish
  | .applying (.showError report :: _) => some (.tell report)
  | .editing operation _ _ => some (.edit operation)
  | _ => none

/-- How many steps the worker of a session that was told to stop has left. -/
def left : Worker → Nat
  | .turning _ => 2
  | .parked _ => 1
  | .applying effects => 2 * effects.length + 3
  | .editing _ _ effects => 2 * effects.length + 4
  | .finished => 0

end Worker

namespace Session

variable {session next after : Session} {host hostAfter : Host} {now : Nat}
  {change : Option Change} {exchanges : List Exchange}

/-- The host does what the step has it do, and unless a reply is taken this is the first thing on
the agenda, or nothing. -/
theorem WorkerStep.agenda (step : session.WorkerStep host now next hostAfter change) :
    hostAfter = session.worker.deed?.toList.foldl Host.does host ∧
      (session.taking? = none →
        session.worker.deed?.toList ++ next.worker.agenda = session.worker.agenda) := by
  cases step with
  | waits stage | stops stage | notices stage | expires stage =>
    rw [stage]
    exact ⟨rfl, fun _ => rfl⟩
  | takes stage active first =>
    rw [stage, taking?_of_first stage active first]
    exact ⟨rfl, nofun⟩
  | tells stage | ends stage =>
    rw [stage]
    exact ⟨rfl, fun _ => rfl⟩
  | @asks effect operation effects stage edits =>
    have waits : session.worker.deed? = none := by
      rw [stage]
      cases effect with
      | showError report => cases edits
      | replace | insert | delete => rfl
    rw [waits, stage]
    refine ⟨rfl, fun _ => ?_⟩
    simp [Worker.agenda, Effect.deed_of_edits edits]
  | edits stage performed =>
    rw [stage]
    exact ⟨by simp [Worker.deed?, Host.does, Host.editedFor, performed], fun _ => rfl⟩
  | passesOver stage refused =>
    rw [stage]
    exact ⟨by simp [Worker.deed?, Host.does, Host.editedFor, refused], fun _ => rfl⟩

/-- How many steps a session that was told to stop has left. -/
def left (session : Session) : Nat :=
  (if session.intake.finished then 0 else if session.intake.inHand.isSome then 2 else 1) +
    (if session.outlet.finished then 0 else 1) + session.worker.left

/-- What becomes of a session that was told to stop: it is asked for requests at most, and remembers
some of them, but writes none; and it has no more steps left than before. -/
structure Silent (session : Session) (exchanges : List Exchange) (after : Session) : Prop where
  told : after.cancelled = true
  place : after.host = session.host
  written : after.outlet.sink.written = session.outlet.sink.written
  heard : ∃ asked sent : List Request, exchanges = asked.map .asked ∧ sent.Sublist asked ∧
    after.completion = sent.foldl Completion.sent session.completion
  left : after.left ≤ session.left

/-- A session to which nothing happens stays silent. -/
theorem Silent.refl (told : session.cancelled = true) : session.Silent [] session :=
  ⟨told, rfl, rfl, ⟨[], [], rfl, .slnil, rfl⟩, Nat.le_refl _⟩

/-- A session that stays silent for a while, and then for another one, stays silent. -/
theorem Silent.trans {middle : Session} {later : List Exchange}
    (first : session.Silent exchanges middle) (second : middle.Silent later after) :
    session.Silent (exchanges ++ later) after := by
  obtain ⟨asked, sent, asks, part, completion⟩ := first.heard
  obtain ⟨askedLater, sentLater, asksLater, partLater, completionLater⟩ := second.heard
  refine ⟨second.told, second.place.trans first.place, second.written.trans first.written,
    ⟨asked ++ askedLater, sent ++ sentLater, ?_, part.append partLater, ?_⟩,
    Nat.le_trans second.left first.left⟩
  · rw [asks, asksLater, List.map_append]
  · rw [completionLater, completion, List.foldl_append]

/-- Of the requests that are to be sent, a session remembers those up to the first refused one. -/
theorem sendAll_heard (requests : List Request) (session : Session) :
    ∃ sent queue news, List.Sublist sent requests ∧ (sendAll requests session).1 =
      { session with
        completion := sent.foldl Completion.sent session.completion
        outlet := { session.outlet with queue }
        news } := by
  induction requests generalizing session with
  | nil => exact ⟨[], session.outlet.queue, session.news, .slnil, rfl⟩
  | cons request rest inductionHypothesis =>
    rw [sendAll]
    cases taken : session.outlet.send? request with
    | none =>
      simp only [send, taken]
      exact ⟨[request], session.outlet.queue, session.news,
        .cons_cons request (List.nil_sublist rest), rfl⟩
    | some outlet =>
      obtain ⟨queue, rfl⟩ : ∃ queue, outlet = { session.outlet with queue } := by
        unfold Outlet.send? at taken
        split at taken
        · cases taken
        · exact ⟨_, (Option.some.inj taken).symm⟩
      simp only [send, taken]
      obtain ⟨sent, queueAfter, news, part, same⟩ := inductionHypothesis
        { session with
          completion := session.completion.sent request
          outlet := { session.outlet with queue }
          news := true }
      exact ⟨request :: sent, queueAfter, news, .cons_cons request part, same⟩

/-- An inbound side that was told to stop gives away the reply in hand, and then stops. -/
theorem left_intake {abandoned : Bool} {intake : Intake} (told : session.cancelled = true)
    (worked : session.intake.step session.cancelled abandoned = some intake) :
    ({ session with intake } : Session).left < session.left := by
  have active := (Intake.step_work worked).1
  rw [told, Intake.step, if_neg (by simp [active])] at worked
  cases held : session.intake.inHand with
  | none =>
    simp only [held, if_true, Option.some.injEq] at worked
    subst worked
    simp [left, active, held]
  | some reply =>
    simp only [held, Intake.offer] at worked
    split at worked
    · cases worked
      simp [left, active, held]
    · split at worked
      · cases worked
        simp [left, active, held]
      · cases worked

/-- An outbound side that was told to stop stops, and writes nothing before. -/
theorem left_outlet {outlet : Outlet} (told : session.cancelled = true)
    (worked : session.outlet.step session.cancelled = some outlet) :
    ({ session with outlet } : Session).left < session.left ∧
      outlet.sink.written = session.outlet.sink.written := by
  rw [told] at worked
  cases Outlet.works_of_step worked with
  | ends active => simp [left, active, Outlet.finish, Sink.shutDown]
  | writes _ going => cases going

/-- A step of a worker that was told to stop, or that is in the middle of a reply, is one less to
come. -/
theorem WorkerStep.left_lt (step : session.WorkerStep host now next hostAfter change)
    (busy : session.cancelled = true ∨ session.worker.isApplying = true) :
    next.worker.left < session.worker.left := by
  cases step with
  | takes stage active | notices stage _ active | expires stage _ active =>
    rcases busy with told | applying
    · exact absurd (active.symm.trans told) Bool.false_ne_true
    · rw [stage] at applying
      cases applying
  | waits stage | stops stage | tells stage | edits stage | passesOver stage | ends stage =>
    simp [stage, Worker.left]
  | asks stage =>
    simp only [stage, Worker.left, List.length_cons]
    omega

/-- A worker that was told to stop goes on to the end of the reply at hand, and then stops. -/
theorem left_worker (told : session.cancelled = true)
    (stepped : session.stepWorker host now = some (next, hostAfter, change)) :
    next.left < session.left ∧ session.taking? = none ∧ next.completion = session.completion ∧
      next.outlet = session.outlet := by
  have step := stepWorker_cases stepped
  have fewer := step.left_lt (.inl told)
  cases step with
  | takes _ active | notices _ _ active | expires _ _ active =>
    exact absurd (active.symm.trans told) Bool.false_ne_true
  | stops stage stopping =>
    exact ⟨Nat.add_lt_add_left fewer _, taking?_of_stopping stopping, rfl, rfl⟩
  | waits stage | tells stage | asks stage | edits stage | passesOver stage | ends stage =>
    exact ⟨Nat.add_lt_add_left fewer _, by simp [taking?, stage], rfl, rfl⟩

/-- Whatever happens to a session that was told to stop, it stays silent. -/
theorem Turn.silent (told : session.cancelled = true) (turn : session.Turn exchanges after) :
    session.Silent exchanges after := by
  cases turn with
  | asked requests =>
    obtain ⟨sent, queue, news, part, same⟩ := sendAll_heard requests session
    rw [same]
    exact ⟨told, rfl, rfl, ⟨requests, sent, rfl, part, rfl⟩, Nat.le_refl _⟩
  | @inbound intake turn =>
    refine ⟨told, rfl, rfl, ⟨[], [], rfl, .slnil, rfl⟩, ?_⟩
    cases turn with
    | arrived arrivals =>
      obtain ⟨later, same⟩ := session.intake.receive_arrivals arrivals
      rw [same]
      exact Nat.le_refl _
    | written content =>
      obtain ⟨later, same⟩ := session.intake.receiveBytes_arrivals content
      rw [same]
      exact Nat.le_refl _
    | closed => exact Nat.le_refl _
    | worked worked => exact Nat.le_of_lt (left_intake told worked)
  | outbound turn =>
    cases turn with
    | cut => exact ⟨told, rfl, rfl, ⟨[], [], rfl, .slnil, rfl⟩, Nat.le_refl _⟩
    | worked worked =>
      obtain ⟨less, written⟩ := left_outlet told worked
      exact ⟨told, rfl, written, ⟨[], [], rfl, .slnil, rfl⟩, Nat.le_of_lt less⟩
  | cancelled => exact ⟨rfl, rfl, rfl, ⟨[], [], rfl, .slnil, rfl⟩, Nat.le_refl _⟩
  | worked stepped =>
    obtain ⟨less, none, completion, outlet⟩ := left_worker told stepped
    obtain ⟨place, still⟩ := (stepWorker_cases stepped).kept
    refine ⟨still.trans told, place, by rw [outlet], ⟨[], [], ?_, .slnil, completion⟩,
      Nat.le_of_lt less⟩
    rw [none]
    rfl

/-- A session that was told to stop stays silent along every course. -/
theorem Course.silent (told : session.cancelled = true)
    (course : session.Course exchanges after) : session.Silent exchanges after := by
  induction course with
  | rest session => exact .refl told
  | turn turn course inductionHypothesis =>
    have first := turn.silent told
    exact first.trans (inductionHypothesis first.told)

end Session

end Typeahead

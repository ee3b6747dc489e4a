import Typeahead.Proofs.Session.Desk
import Typeahead.Proofs.Workspace.Closing
import Typeahead.Proofs.Workspace.Outstanding

/-!
# The reply at hand

A worker takes a reply by letting it have its effect on the completion; what the reply asks
of the document is done later, step by step. Until the worker takes another reply, span and
history stay as the one at hand has left them, whatever else happens, and what is still to be
done is an end of what the reply asked for: `remains_run`. In particular nothing that becomes
of an edit reaches back to span or history.
-/

namespace Typeahead

namespace Session

/-- Span and history are as they were, and what the session's host has still to do is an end of what
it had to do. -/
structure Remains (session after : Session) : Prop where
  span : after.completion.spanStart = session.completion.spanStart
  history : after.completion.history = session.completion.history
  place : after.host = session.host
  pending : after.worker.pending <:+ session.worker.pending

variable {session middle after : Session} {exchanges : List Exchange}

/-- Nothing has happened. -/
theorem Remains.refl (session : Session) : session.Remains session :=
  ⟨rfl, rfl, rfl, List.suffix_refl _⟩

/-- What remains for a while, and then for another one, remains. -/
theorem Remains.trans (first : session.Remains middle) (second : middle.Remains after) :
    session.Remains after :=
  ⟨second.span.trans first.span, second.history.trans first.history,
    second.place.trans first.place, second.pending.trans first.pending⟩

/-- A turn in which no reply is taken leaves span and history alone. -/
theorem Turn.remains (turn : session.Turn exchanges after)
    (none : Exchange.replies exchanges = []) : session.Remains after := by
  cases turn with
  | asked requests =>
    obtain ⟨_, _, _, _, sent⟩ := sendAll_kept requests session
    rw [sent]
    exact ⟨rfl, rfl, rfl, List.suffix_refl _⟩
  | inbound | outbound | cancelled => exact ⟨rfl, rfl, rfl, List.suffix_refl _⟩
  | worked stepped =>
    cases stepWorker_cases stepped with
    | waits stage | notices stage | expires stage | stops stage =>
      exact ⟨rfl, rfl, rfl, by rw [stage]; exact List.suffix_refl _⟩
    | takes stage active first =>
      rw [taking?_of_first stage active first] at none
      cases none
    | tells stage => exact ⟨rfl, rfl, rfl, by rw [stage]; exact List.suffix_refl _⟩
    | asks stage edits =>
      exact ⟨rfl, rfl, rfl, by rw [stage]; simp [Worker.pending, edits]⟩
    | edits stage | passesOver stage =>
      exact ⟨rfl, rfl, rfl, by rw [stage]; exact List.suffix_cons _ _⟩
    | ends stage => exact ⟨rfl, rfl, rfl, List.nil_suffix⟩

/-- Nor does a course in which no reply is taken. -/
theorem Course.remains (course : session.Course exchanges after)
    (none : Exchange.replies exchanges = []) : session.Remains after := by
  induction course with
  | rest session => exact .refl session
  | turn turn _ inductionHypothesis =>
    rw [Exchange.replies_append, List.append_eq_nil_iff] at none
    exact (turn.remains none.1).trans (inductionHypothesis none.2)

/-- The edit that a worker awaits is one that the reply at hand asks for. -/
theorem Remains.asked (remains : session.Remains after) {requested effects : List Effect}
    {operation : Buffer.Operation} {due : Nat} (applying : session.worker = .applying requested)
    (editing : after.worker = .editing operation due effects) :
    ∃ effect ∈ requested, effect.operation? = some operation := by
  obtain ⟨done, all⟩ := remains.pending
  simp only [applying, editing, Worker.pending] at all
  rw [← List.cons_append, ← List.append_assoc] at all
  rw [← List.mem_filterMap, ← List.append_cancel_right all]
  simp

/-- A worker that takes a reply stands between two replies. -/
theorem taking?_eq_some {reply : Reply} (takes : session.taking? = some reply) :
    ∃ deadline queue, session.worker = .parked deadline ∧ session.cancelled = false ∧
      session.intake.queue = reply :: queue := by
  unfold taking? at takes
  split at takes
  · next deadline stage =>
    split at takes
    · cases takes
    · next active =>
      obtain ⟨queue, first⟩ := List.head?_eq_some_iff.mp takes
      exact ⟨deadline, queue, stage, eq_false_of_ne_true active, first⟩
  · cases takes

end Session

namespace Workspace

variable {workspace : Workspace} {number : Nat} {session : Session} {host : Host} {reply : Reply}
  {cursor : Nat}

/-- A step of a session's worker, as a move: session and host stand in their places as the step
leaves them, and an edit is reported. -/
theorem perform_steps (present : workspace.sessions[number]? = some session)
    (hosted : workspace.hosts[session.host]? = some host) {middle : Session} {hostAfter : Host}
    {change : Option Change}
    (stepped : session.stepWorker host workspace.clock = some (middle, hostAfter, change)) :
    workspace.perform (.act number .worker) =
      ((workspace.setSession number middle).setHost session.host hostAfter).report hostAfter
        change := by
  simp [perform, act, present, hosted, stepped]

/-- What such a step does to the hosts and to the worker itself. -/
theorem perform_worker (present : workspace.sessions[number]? = some session)
    (hosted : workspace.hosts[session.host]? = some host) {middle : Session} {hostAfter : Host}
    {change : Option Change}
    (stepped : session.stepWorker host workspace.clock = some (middle, hostAfter, change)) :
    (workspace.perform (.act number .worker)).hosts = workspace.hosts.set session.host hostAfter ∧
      (workspace.perform (.act number .worker)).Stays number middle := by
  have there : ((workspace.setSession number middle).setHost session.host
      hostAfter).sessions[number]? = some middle := sessions_setSession present middle
  rw [perform_steps present hosted stepped]
  exact ⟨(report_only _ _ _).hosts, stays_report there hostAfter change⟩

/-- If it leaves the host alone, only the session changes. -/
theorem perform_alone (present : workspace.sessions[number]? = some session)
    (hosted : workspace.hosts[session.host]? = some host) {after : Session}
    (stepped : session.stepWorker host workspace.clock = some (after, host, none)) :
    workspace.perform (.act number .worker) = workspace.setSession number after := by
  have same : workspace.hosts.set session.host host = workspace.hosts := by
    rw [← (List.getElem?_eq_some_iff.mp hosted).2, List.set_getElem_self]
  rw [perform_steps present hosted stepped]
  simp only [report, setHost, setSession, same]

/-- A worker that has to wait does nothing. -/
theorem perform_waiting (present : workspace.sessions[number]? = some session)
    (hosted : workspace.hosts[session.host]? = some host)
    (waits : session.stepWorker host workspace.clock = none) :
    workspace.perform (.act number .worker) = workspace := by
  simp [perform, act, present, hosted, waits]

/-- A session whose worker has just taken a reply. -/
structure Taken (workspace : Workspace) (number : Nat) (session : Session) (reply : Reply)
    (cursor : Nat) (taken : Session) : Prop where
  present : workspace.sessions[number]? = some taken
  completion : taken.completion = (session.completion.apply reply cursor).1
  worker : taken.worker = .applying (session.completion.apply reply cursor).2
  place : taken.host = session.host
  locked : taken.locked = true

/-- A worker that takes a reply lets it have its effect on the completion, and has not had its host
do anything yet. -/
theorem perform_takes (present : workspace.sessions[number]? = some session)
    (takes : session.taking? = some reply) (hosted : workspace.hosts[session.host]? = some host)
    (told : host.cursor = .ok cursor) :
    (workspace.perform (.act number .worker)).hosts = workspace.hosts ∧
      ∃ taken, (workspace.perform (.act number .worker)).Taken number session reply cursor
        taken := by
  obtain ⟨deadline, queue, stage, active, first⟩ := Session.taking?_eq_some takes
  let taken : Session := { session with
    intake := { session.intake with queue }
    locked := true
    completion := (session.completion.apply reply cursor).1
    worker := .applying (session.completion.apply reply cursor).2 }
  have stepped : session.stepWorker host workspace.clock = some (taken, host, none) := by
    simp [Session.stepWorker, stage, Session.stepParked, active, first, Session.beginReply, told,
      taken]
  rw [perform_alone present hosted stepped]
  exact ⟨rfl, taken, sessions_setSession present taken, rfl, rfl, rfl, rfl⟩

/-- A session whose worker has taken a reply is locked as it should be. -/
theorem Taken.latched {taken : Session}
    (took : workspace.Taken number session reply cursor taken) : taken.Latched := by
  rw [Session.Latched, took.locked, took.worker]
  rfl

/-- A move in which a session takes no reply leaves its span and history alone. -/
theorem remains_perform (present : workspace.sessions[number]? = some session)
    (latched : session.Latched) {move : Move}
    (none : Exchange.replies (workspace.exchanges number move) = []) :
    (workspace.perform move).Holds number fun after => session.Remains after ∧ after.Latched := by
  obtain ⟨after, there, course⟩ := leads_perform present move
  rw [heeds_calls present latched] at course
  exact ⟨after, there, course.remains none, course.keeps Session.Latched.turn latched⟩

/-- A run in which a session takes no reply leaves its span and history alone. -/
theorem remains_run (present : workspace.sessions[number]? = some session)
    (latched : session.Latched) {moves : List Move}
    (none : Exchange.replies (workspace.exchangeLog number moves) = []) :
    (workspace.run moves).Holds number fun after => session.Remains after ∧ after.Latched := by
  obtain ⟨after, there, course⟩ := leads_run present latched moves
  exact ⟨after, there, course.remains none, course.keeps Session.Latched.turn latched⟩

/-- The time of an edit that a session's worker awaits of its host has come. -/
structure EditDue (workspace : Workspace) (number : Nat) (session : Session) (host : Host)
    (operation : Buffer.Operation) : Prop where
  present : workspace.sessions[number]? = some session
  hosted : workspace.hosts[session.host]? = some host
  stage : ∃ due effects, session.worker = .editing operation due effects ∧ due ≤ workspace.clock

/-- How it stands with a worker and its host tells whether an edit is due. -/
theorem editDue_of_stage {operation : Buffer.Operation} {due : Nat} {effects : List Effect}
    (stage : (workspace.sessions[number]?.bind fun session =>
      workspace.hosts[session.host]?.map fun host => (session.worker, host)) =
      some (.editing operation due effects, host))
    (late : due ≤ workspace.clock) :
    ∃ session, workspace.EditDue number session host operation := by
  obtain ⟨session, present, stage⟩ := Option.bind_eq_some_iff.mp stage
  obtain ⟨awaited, hosted, facts⟩ := Option.map_eq_some_iff.mp stage
  obtain ⟨editing, rfl⟩ := Prod.mk.inj facts
  exact ⟨session, present, hosted, due, effects, editing, late⟩

/-- An edit that is due and that the host refuses changes no document. -/
theorem EditDue.refused {operation : Buffer.Operation} {refusal : Fault}
    (due : workspace.EditDue number session host operation)
    (refused : host.editFor operation = .error refusal) :
    (workspace.perform (.act number .worker)).hosts = workspace.hosts := by
  obtain ⟨present, hosted, time, effects, editing, late⟩ := due
  have stepped : session.stepWorker host workspace.clock =
      some ({ session with worker := .applying effects }, host, none) := by
    simp [Session.stepWorker, editing, late, refused]
  rw [(perform_worker present hosted stepped).1, ← (List.getElem?_eq_some_iff.mp hosted).2,
    List.set_getElem_self]

/-- An edit that is due and that the host makes changes its buffer and no other host, and is done
with. -/
theorem EditDue.made {operation : Buffer.Operation} {edited : Host} {change : Option Change}
    (due : workspace.EditDue number session host operation)
    (made : host.editFor operation = .ok (edited, change)) :
    (workspace.perform (.act number .worker)).hosts = workspace.hosts.set session.host edited ∧
      (workspace.perform (.act number .worker)).Holds number fun after =>
        operation :: after.worker.pending = session.worker.pending := by
  obtain ⟨present, hosted, time, effects, editing, late⟩ := due
  have stepped : session.stepWorker host workspace.clock =
      some ({ session with worker := .applying effects }, edited, change) := by
    simp [Session.stepWorker, editing, late, made]
  obtain ⟨hosts, after, there, still⟩ := perform_worker present hosted stepped
  refine ⟨hosts, after, there, ?_⟩
  simp only [still, editing, Worker.pending]

end Workspace

end Typeahead

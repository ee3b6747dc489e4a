import Mathlib.Data.List.Induction
import Typeahead.Proofs.Session.Timer
import Typeahead.Proofs.Workspace.AtHand

/-!
# Waits and the timer

A deadline that runs in some workspace has a history: it was set at some moment of the run, one
timeout ahead, and from that moment on the session has awaited an answer and its worker has taken
no reply (`deadline_since`). That is found by going back through the run. A move that does not set
the deadline leaves it as it was, so it ran before, and takes no reply.

The main result, `reply_timer`, says of every session of a run when its timer fires, what that
does, and that no wait goes without a deadline unless the worker is about to be told of it.
-/

namespace Typeahead.Workspace

/-- A session awaits an answer. -/
def Awaits (workspace : Workspace) (number : Nat) : Prop :=
  workspace.Holds number fun session => session.isAwaitingReply = true

/-- A session awaits an answer before, during and after a run, and its worker takes no reply. -/
def AwaitsThroughout (number : Nat) : Workspace → List Move → Prop
  | workspace, [] => workspace.Awaits number
  | workspace, move :: rest =>
    workspace.Awaits number ∧ workspace.takes number move = [] ∧
      AwaitsThroughout number (workspace.perform move) rest

variable {workspace next : Workspace} {number : Nat} {session : Session} {host : Host}

/-- A wait goes on through one more move in which no reply is taken, if it is not over then. -/
theorem AwaitsThroughout.concat {moves : List Move} {move : Move}
    (throughout : workspace.AwaitsThroughout number moves)
    (nothing : (workspace.run moves).takes number move = [])
    (awaits : ((workspace.run moves).perform move).Awaits number) :
    workspace.AwaitsThroughout number (moves ++ [move]) := by
  induction moves generalizing workspace with
  | nil => exact ⟨throughout, nothing, awaits⟩
  | cons first rest inductionHypothesis =>
    obtain ⟨now, none, later⟩ := throughout
    exact ⟨now, none, inductionHypothesis later nothing awaits⟩

/-- The timers of all sessions are in order, whatever has happened. -/
theorem Reached.timed (reached : workspace.Reached) :
    workspace.Everywhere (Session.Timed workspace.settings.replyTimeout) := by
  refine @Reached.everywhere workspace (fun settings => Session.Timed settings.replyTimeout) ?_
    (fun settings => Session.Timed.turn settings.replyTimeout) reached
  intro workspace document host language line
  have begun : (Session.start document language host workspace.settings
      (line.intake workspace.settings) line.sink).Timed workspace.settings.replyTimeout :=
    ⟨rfl, fun runs => absurd rfl runs, ⟨rfl, nofun⟩, nofun⟩
  exact begun.send (.start language)

/-- A deadline that runs behind a move ran before, or it has just been set, one timeout ahead. No
reply was taken. -/
theorem perform_deadline (present : workspace.sessions[number]? = some session) {move : Move}
    {after : Session} {due : Nat}
    (there : (workspace.perform move).sessions[number]? = some after)
    (runs : after.worker.deadline? = some due) :
    workspace.takes number move = [] ∧ (session.worker.deadline? = some due ∨
      ∃ time, session.timeout = some time ∧ due = (workspace.perform move).clock + time) := by
  by_cases own : move = .act number .worker
  · subst own
    cases acted : workspace.act number .worker with
    | none =>
      simp only [perform, acted, Option.getD_none] at there
      obtain rfl := Option.some.inj (present.symm.trans there)
      exact ⟨takes_of_waiting acted, .inl runs⟩
    | some next =>
      have clock : (workspace.perform (.act number .worker)).clock = workspace.clock := by
        obtain ⟨_, _, rfl⟩ := act_sessions acted
        simp [perform, acted]
      have step := act_acted_by present acted
      cases step with
      | @worker host hostAfter middle change hosted stepped =>
        obtain ⟨-, last, arrived, same⟩ := perform_worker present hosted stepped
        obtain rfl := Option.some.inj (arrived.symm.trans there)
        rw [same] at runs
        obtain ⟨nothing, since⟩ := (Session.stepWorker_cases stepped).deadline runs
        rw [clock]
        exact ⟨by simp [takes, acted, present, nothing], since⟩
  · obtain ⟨last, arrived, same⟩ := perform_stays present own
    obtain rfl := Option.some.inj (arrived.symm.trans there)
    rw [same] at runs
    exact ⟨takes_of_foreign own, .inl runs⟩

/-- The moment at which a deadline was set. Since then the session has awaited an answer, and no
reply has been taken. -/
theorem deadline_since (settings : Settings) (directory : Text) (lines : List Line)
    (refusal : Fault) (moves : List Move) {due : Nat}
    (present : ((start settings directory lines refusal).run moves).sessions[number]? =
      some session)
    (runs : session.worker.deadline? = some due) :
    let begun := start settings directory lines refusal
    ∃ earlier later time, moves = earlier ++ later ∧ settings.replyTimeout = some time ∧
      due = (begun.run earlier).clock + time ∧
      (begun.run earlier).AwaitsThroughout number later := by
  intro begun
  induction moves using List.reverseRecOn generalizing session with
  | nil => cases present
  | append_singleton moves move inductionHypothesis =>
    have settled : (begun.run moves).Reached := ⟨_, _, _, _, _, rfl⟩
    have last : begun.run (moves ++ [move]) = (begun.run moves).perform move :=
      run_append begun moves [move]
    change (begun.run (moves ++ [move])).sessions[number]? = some session at present
    rw [last] at present
    have awaits : ((begun.run moves).perform move).Awaits number := by
      have timed := (settled.run [move]).timed number session present
      exact ⟨session, present, (timed.awaited (by simp [runs])).1⟩
    cases before : (begun.run moves).sessions[number]? with
    | none =>
      have numbered := (numbered_start settings directory lines refusal).run moves
      obtain ⟨_, _, _, _, -, rfl⟩ := perform_newSession numbered present before
      cases runs
    | some earlierSession =>
      obtain ⟨nothing, ran | ⟨time, timed, set⟩⟩ := perform_deadline before present runs
      · obtain ⟨earlier, later, time, rfl, timed, set, throughout⟩ :=
          inductionHypothesis before ran
        refine ⟨earlier, later ++ [move], time, List.append_assoc _ _ _, timed, set, ?_⟩
        rw [run_append] at nothing awaits
        exact throughout.concat nothing awaits
      · have same := (settled.timed number earlierSession before).time
        rw [(begun.run_onward moves).1] at same
        refine ⟨moves ++ [move], [], time, (List.append_nil _).symm, same.symm.trans timed, ?_, ?_⟩
        · rw [last]
          exact set
        · rw [last]
          exact awaits

/-- A worker that is told of a request, with nothing else to heed and an answer outstanding, sets a
deadline with its next steps, one timeout ahead. -/
theorem news_sets_deadline (present : workspace.sessions[number]? = some session)
    (hosted : workspace.hosts[session.host]? = some host) (stage : session.worker = .parked none)
    (active : session.cancelled = false) (empty : session.intake.queue = [])
    (reading : session.intake.finished = false) (told : session.news = true)
    (awaiting : session.isAwaitingReply = true) {time : Nat} (timed : session.timeout = some time) :
    (workspace.run [.act number .worker, .act number .worker]).Holds number fun after =>
      after.worker = .parked (some (workspace.clock + time)) := by
  let noticed : Session := { session with news := false, worker := .turning none }
  have notices : session.stepWorker host workspace.clock = some (noticed, host, none) := by
    simp [Session.stepWorker, stage, Session.stepParked, active, empty, reading, told, noticed]
  have turned := perform_alone present hosted notices
  have there := sessions_setSession present noticed
  have awaits : noticed.isAwaitingReply = true := awaiting
  have deadline : noticed.deadlineAt workspace.clock none = some (workspace.clock + time) := by
    have limited : noticed.timeout = some time := timed
    rw [Session.deadlineAt, if_pos awaits, limited]
    rfl
  have waits : noticed.stepWorker host workspace.clock =
      some ({ noticed with worker := .parked (some (workspace.clock + time)) }, host, none) := by
    rw [← deadline]
    rfl
  have parked : (workspace.setSession number noticed).perform (.act number .worker) = _ :=
    perform_alone there hosted waits
  simp only [run, turned, parked]
  exact ⟨_, sessions_setSession there _, rfl⟩

/-- The timer of a session fires when it has to and never else. In any run from a workspace without
documents:

A step of a worker that takes no reply ends the wait for an answer just when the timer fires. That
never happens without a timeout. With one it happens only when the session has awaited an answer,
without interruption, since some moment at least one timeout ago, and has taken no reply since then;
and it changes the phase and starts the worker over, and nothing else, neither in the session nor
anywhere in the workspace. And a session that has not been told to stop, whose worker waits while
an answer is outstanding, has a deadline at most one timeout ahead, or the worker is about to be
told of the request: if no reply and no end of the replies comes first, its next steps set such a
deadline. -/
theorem reply_timer (settings : Settings) (directory : Text) (lines : List Line) (refusal : Fault)
    (moves : List Move)
    (present : ((start settings directory lines refusal).run moves).sessions[number]? =
      some session) :
    let begun := start settings directory lines refusal
    let reached := begun.run moves
    (∀ host next hostAfter change,
      session.stepWorker host reached.clock = some (next, hostAfter, change) →
      session.isAwaitingReply = true → session.taking? = none →
      (next.isAwaitingReply = false ↔ session.TimesOut reached.clock)) ∧
    (settings.replyTimeout = none → ¬ session.TimesOut reached.clock) ∧
    (session.TimesOut reached.clock →
      (∃ earlier later time, moves = earlier ++ later ∧ settings.replyTimeout = some time ∧
        (begun.run earlier).clock + time ≤ reached.clock ∧
        (begun.run earlier).AwaitsThroughout number later) ∧
      ∀ host, reached.hosts[session.host]? = some host →
        reached.perform (.act number .worker) = reached.setSession number
          { session with
            completion := { session.completion with phase := .idle }
            worker := .turning none }) ∧
    ∀ time, settings.replyTimeout = some time → session.cancelled = false →
      ∀ deadline, session.worker = .parked deadline → session.isAwaitingReply = true →
      (∃ due ≤ reached.clock + time, deadline = some due) ∨
        session.news = true ∧ ∀ host, reached.hosts[session.host]? = some host →
          session.intake.queue = [] → session.intake.finished = false →
          (reached.run [.act number .worker, .act number .worker]).Holds number fun after =>
            ∃ due ≤ reached.clock + time, after.worker = .parked (some due) := by
  intro begun reached
  have came : reached.Reached := ⟨_, _, _, _, _, rfl⟩
  have same : reached.settings = settings := (begun.run_onward moves).1
  have timed := came.timed number session present
  rw [same] at timed
  have since (due : Nat) : session.worker.deadline? = some due → ∃ earlier later time,
      moves = earlier ++ later ∧ settings.replyTimeout = some time ∧
        due = (begun.run earlier).clock + time ∧
        (begun.run earlier).AwaitsThroughout number later :=
    deadline_since settings directory lines refusal moves present
  refine ⟨?_, ?_, ?_, ?_⟩
  · intro host next hostAfter change stepped awaiting nothing
    exact (Session.stepWorker_cases stepped).awaits_iff awaiting nothing
  · intro patient out
    obtain ⟨due, -, stage⟩ := out.late
    obtain ⟨-, timedOut⟩ := timed.awaited (by simp [stage, Worker.deadline?])
    exact timedOut patient
  · intro out
    constructor
    · obtain ⟨due, late, stage⟩ := out.late
      obtain ⟨earlier, later, time, split, limited, set, throughout⟩ :=
        since due (by rw [stage]; rfl)
      exact ⟨earlier, later, time, split, limited, set ▸ late, throughout⟩
    · intro host hosted
      exact perform_alone present hosted (out.step host)
  · intro time limited active deadline stage awaiting
    cases deadline with
    | some due =>
      obtain ⟨earlier, later, other, split, again, set, -⟩ :=
        since due (by rw [stage]; rfl)
      obtain rfl : other = time := Option.some.inj (again.symm.trans limited)
      have onward := ((begun.run earlier).run_onward later).2
      rw [← run_append, ← split] at onward
      exact .inl ⟨due, set ▸ Nat.add_le_add_right onward other, rfl⟩
    | none =>
      have told := timed.noticed (by simp [limited]) stage awaiting active
      refine .inr ⟨told, ?_⟩
      intro host hosted empty reading
      obtain ⟨after, there, parked⟩ := news_sets_deadline present hosted stage active empty reading
        told awaiting (timed.time.trans limited)
      exact ⟨after, there, _, Nat.le_refl _, parked⟩

/-- A document is opened and connected, its worker takes notice of the first request and waits, and
two seconds pass. -/
def unanswered : List Move :=
  [.openDocument (.ofBuffer ⟨['d']⟩ .direct .empty true), .activate ⟨['d']⟩ 0 ['c'],
    .act 0 .worker, .act 0 .worker, .act 0 .worker, .pass 2000]

/-- The first request of a session has not been answered in two seconds. Its timer fires, after a
wait of that length, and the session is idle. -/
theorem reply_timer_unanswered :
    let begun := start Settings.defaults [] [.fresh] (.noSession ⟨['d']⟩)
    let reached := begun.run unanswered
    ∃ session, reached.sessions[0]? = some session ∧ session.TimesOut reached.clock ∧
      (∃ earlier later, unanswered = earlier ++ later ∧
        (begun.run earlier).clock + 2000 ≤ reached.clock ∧
        (begun.run earlier).AwaitsThroughout 0 later) ∧
      ∃ next, session.stepWorker (.ofBuffer ⟨['d']⟩ .direct .empty true) reached.clock =
        some (next, .ofBuffer ⟨['d']⟩ .direct .empty true, none) ∧
        next.isAwaitingReply = false := by
  intro begun reached
  have parked : (reached.sessions[0]?.map fun session =>
      (session.worker, session.cancelled, session.intake.queue, session.intake.finished,
        session.news, session.isAwaitingReply)) =
      some (.parked (some 2000), false, [], false, false, true) := by decide
  obtain ⟨session, present, stands⟩ := Option.map_eq_some_iff.mp parked
  simp only [Prod.mk.injEq] at stands
  obtain ⟨stage, active, empty, reading, untold, awaiting⟩ := stands
  have out : session.TimesOut reached.clock :=
    ⟨⟨2000, Nat.le_refl _, stage⟩, active, empty, reading, untold⟩
  obtain ⟨ends, -, fires, -⟩ := reply_timer Settings.defaults [] [.fresh] (.noSession ⟨['d']⟩)
    unanswered present
  obtain ⟨earlier, later, time, split, limited, set, throughout⟩ := (fires out).1
  obtain rfl : 2000 = time := Option.some.inj limited
  have stepped := out.step (.ofBuffer ⟨['d']⟩ .direct .empty true)
  have nothing : session.taking? = none := Session.taking?_of_empty empty
  exact ⟨session, present, out, ⟨earlier, later, split, set, throughout⟩, _, stepped,
    (ends _ _ _ _ stepped awaiting nothing).mpr out⟩

end Typeahead.Workspace

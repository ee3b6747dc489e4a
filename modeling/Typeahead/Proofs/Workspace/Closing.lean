import Mathlib.Data.List.Basic
import Typeahead.Proofs.Workspace.Lasting
import Typeahead.Proofs.Workspace.Replies
import Typeahead.Proofs.Workspace.Settling
import Typeahead.Proofs.Workspace.Typing

/-!
# Ending a session

A session that has been told to stop never gets stuck: until it has ended, one of its actors
can take a step, or its host is at work on an edit (`goesOn`). Its steps are counted from the
beginning, it has its host do what is left of the reply at hand and nothing else, and it
writes nothing more: `closing_ends`. So waiting for it is not in vain (`close_ended`).

Apart from its own steps nothing that happens in a workspace moves the worker of a session
(`perform_worker`), so what the worker has the host do in a run is what its steps do.
-/

namespace Typeahead

namespace Worker

/-- The edits that a worker that was told to stop still waits for: one for each effect that is left,
and the one at hand unless it is due. -/
def editsAhead (now : Nat) : Worker → Nat
  | .applying effects => effects.length
  | .editing _ due effects => effects.length + if due ≤ now then 0 else 1
  | _ => 0

/-- As time passes there is less to wait for. -/
theorem editsAhead_le (worker : Worker) {now later : Nat} (le : now ≤ later) :
    worker.editsAhead later ≤ worker.editsAhead now := by
  cases worker with
  | editing operation due effects =>
    simp only [editsAhead]
    split <;> split <;> omega
  | _ => exact Nat.le_refl _

end Worker

namespace Session

/-- A session that has been told to stop has ended, or one of its actors can take a step, or its
host is at work on an edit. -/
theorem goesOn {session : Session} (told : session.cancelled = true) (host : Host) (now : Nat) :
    session.hasEnded = true ∨ session.stepIntake.isSome ∨ session.stepOutlet.isSome ∨
      (session.stepWorker host now).isSome ∨
      ∃ operation due effects, session.worker = .editing operation due effects ∧ now < due := by
  cases writing : session.outlet.finished with
  | false => exact .inr (.inr (.inl (by simp [stepOutlet, Outlet.step, writing, told])))
  | true =>
    cases stage : session.worker with
    | turning deadline => exact .inr (.inr (.inr (.inl (by simp [stepWorker, stage]))))
    | parked deadline =>
      exact .inr (.inr (.inr (.inl (by simp [stepWorker, stage, stepParked, told]))))
    | applying effects =>
      refine .inr (.inr (.inr (.inl ?_)))
      cases effects with
      | nil => simp [stepWorker, stage]
      | cons effect effects => cases effect <;> simp [stepWorker, stage]
    | editing operation due effects =>
      by_cases late : due ≤ now
      · refine .inr (.inr (.inr (.inl ?_)))
        simp only [stepWorker, stage, late, if_true]
        split <;> rfl
      · exact .inr (.inr (.inr (.inr ⟨operation, due, effects, rfl, Nat.lt_of_not_le late⟩)))
    | finished =>
      -- The inbound side cannot be held up any more, since nobody takes replies.
      cases reading : session.intake.finished with
      | true => exact .inl (by simp [hasEnded, reading, writing, stage])
      | false =>
        refine .inr (.inl ?_)
        cases held : session.intake.inHand <;>
          simp [stepIntake, Intake.step, reading, held, Intake.offer, told, stage]

/-- There is at most one edit to wait for, for each effect that is left. -/
theorem editsAhead_le_effectsLeft (session : Session) (now : Nat) :
    session.worker.editsAhead now ≤ session.effectsLeft := by
  unfold effectsLeft
  cases session.worker with
  | editing operation due effects =>
    simp only [Worker.editsAhead]
    split <;> omega
  | _ => exact Nat.le_refl _

/-- Taking a step, a session that was told to stop adds nothing to the edits that it waits for. -/
theorem stepWorker_editsAhead {session next : Session} {host hostAfter : Host} {now : Nat}
    {change : Option Change} (told : session.cancelled = true)
    (stepped : session.stepWorker host now = some (next, hostAfter, change)) :
    next.worker.editsAhead now ≤ session.worker.editsAhead now ∧
      ∀ operation due effects, session.worker = .editing operation due effects →
        next.worker.editsAhead now ≤ effects.length := by
  cases stepWorker_cases stepped with
  | takes _ active | notices _ _ active | expires _ _ active =>
    exact absurd (active.symm.trans told) Bool.false_ne_true
  | waits stage | stops stage | ends stage =>
    rw [stage]
    exact ⟨Nat.zero_le _, nofun⟩
  | tells stage =>
    rw [stage]
    exact ⟨Nat.le_succ _, nofun⟩
  | asks stage =>
    rw [stage]
    refine ⟨?_, nofun⟩
    simp only [Worker.editsAhead, List.length_cons]
    split <;> omega
  | edits stage performed late | passesOver stage refused late =>
    rw [stage]
    refine ⟨by simp [Worker.editsAhead], ?_⟩
    intro operation due effects same
    cases same
    exact Nat.le_refl _

/-- A session that has ended takes no steps. -/
theorem hasEnded_rests {session : Session} (ended : session.hasEnded = true) :
    session.stepIntake = none ∧ session.stepOutlet = none ∧
      ∀ host now, session.stepWorker host now = none := by
  simp only [hasEnded, Bool.and_eq_true, decide_eq_true_eq] at ended
  obtain ⟨⟨reading, writing⟩, stage⟩ := ended
  simp [stepIntake, Intake.step, reading, stepOutlet, Outlet.step, writing, stepWorker, stage]

end Session

namespace Workspace

variable {workspace next : Workspace} {number : Nat} {session : Session}

/-- What a session has its host do in a move. -/
def deeds (number : Nat) (workspace : Workspace) : Move → List Deed
  | .act other .worker =>
    if other = number ∧ (workspace.act number .worker).isSome then
      (workspace.sessions[number]?.bind fun session => session.worker.deed?).toList
    else []
  | _ => []

/-- What a session has its host do in a run, in order. -/
def deedLog (number : Nat) : Workspace → List Move → List Deed
  | _, [] => []
  | workspace, move :: rest =>
    workspace.deeds number move ++ deedLog number (workspace.perform move) rest

/-- An actor that has to wait has no host do anything. -/
theorem deeds_of_waiting {other : Nat} {actor : Actor} (waits : workspace.act other actor = none) :
    workspace.deeds number (.act other actor) = [] := by
  cases actor with
  | intake | outlet => rfl
  | worker =>
    by_cases same : other = number
    · subst same
      simp [deeds, waits]
    · simp [deeds, same]

/-- A worker that steps has the host do what its step is for. -/
theorem deeds_own (present : workspace.sessions[number]? = some session)
    (acted : workspace.act number .worker = some next) :
    workspace.deeds number (.act number .worker) = session.worker.deed?.toList := by
  simp [deeds, acted, present]

/-- How many steps the actors of a session take in a move: one, or none. -/
def stepsIn (number : Nat) (workspace : Workspace) : Move → Nat
  | .act other actor => if other = number ∧ (workspace.act number actor).isSome then 1 else 0
  | _ => 0

/-- How many steps the actors of a session take in a run. -/
def stepCount (number : Nat) : Workspace → List Move → Nat
  | _, [] => 0
  | workspace, move :: rest =>
    workspace.stepsIn number move + stepCount number (workspace.perform move) rest

/-- The worker of a session stands where it stood before. -/
def Stays (workspace : Workspace) (number : Nat) (session : Session) : Prop :=
  workspace.Holds number fun after => after.worker = session.worker

/-- What happens outside the sessions moves no worker. -/
theorem stays_elsewhere (present : workspace.sessions[number]? = some session)
    (sessions : next.sessions = workspace.sessions) : next.Stays number session :=
  ⟨session, (congrArg (·[number]?) sessions).trans present, rfl⟩

/-- Putting a session in its place moves no other worker. -/
theorem stays_setSession (present : workspace.sessions[number]? = some session) {other : Nat}
    {acting after : Session} (acts : workspace.sessions[other]? = some acting)
    (same : other = number → after.worker = acting.worker) :
    (workspace.setSession other after).Stays number session := by
  by_cases equal : other = number
  · subst equal
    obtain rfl : acting = session := Option.some.inj (acts.symm.trans present)
    exact ⟨after, sessions_setSession present after, same rfl⟩
  · exact ⟨session, (sessions_setSession_other _ equal after).trans present, rfl⟩

/-- Sending moves no worker. -/
theorem sendAll_worker (requests : List Request) (session : Session) :
    (Session.sendAll requests session).1.worker = session.worker := by
  obtain ⟨_, _, _, _, sent⟩ := Session.sendAll_kept requests session
  rw [sent]

/-- Hearing of a change moves no worker. -/
theorem stays_tellSession (present : workspace.sessions[number]? = some session) (other : Nat)
    (change : Change) : (workspace.tellSession other change).1.Stays number session := by
  unfold tellSession
  split
  · exact stays_elsewhere present rfl
  · next acts =>
    refine stays_setSession present acts fun _ => ?_
    rw [Session.handleChange_eq]
    exact sendAll_worker _ _

/-- Routing a change moves no worker. -/
theorem stays_documentChanged (present : workspace.sessions[number]? = some session)
    (document : DocumentId) (change : Change) :
    (workspace.documentChanged document change).1.Stays number session := by
  unfold documentChanged
  split
  · exact stays_elsewhere present rfl
  · exact stays_tellSession present _ change

/-- Reporting an edit moves no worker. -/
theorem stays_report (present : workspace.sessions[number]? = some session) (host : Host)
    (change : Option Change) : (workspace.report host change).Stays number session := by
  unfold report
  split
  · split
    · exact stays_documentChanged present _ _
    · exact stays_elsewhere present rfl
  · exact stays_elsewhere present rfl

/-- Sending by a session moves no worker. -/
theorem stays_sendBy (present : workspace.sessions[number]? = some session) (other : Nat)
    (request : Request) : (workspace.sendBy other request).1.Stays number session := by
  unfold sendBy
  split
  · exact stays_elsewhere present rfl
  · next acts => exact stays_setSession present acts fun _ => (Session.send_kept _ request).2.1

/-- A change of the inbound side moves no worker. -/
theorem stays_withIntake (present : workspace.sessions[number]? = some session) (other : Nat)
    (change : Intake → Intake) : (workspace.withIntake other change).Stays number session := by
  unfold withIntake
  split
  · exact stays_elsewhere present rfl
  · next acts => exact stays_setSession present acts fun _ => rfl

/-- An operation of the user moves no worker. -/
theorem stays_edit (present : workspace.sessions[number]? = some session) (document : DocumentId)
    (operation : Buffer.Operation) :
    (workspace.perform (.edit document operation)).Stays number session := by
  simp only [perform, edit]
  cases workspace.hostOf? document with
  | none => exact stays_elsewhere present rfl
  | some place =>
    cases hosted : workspace.hosts[place]? with
    | none =>
      simp only [hosted]
      exact stays_elsewhere present rfl
    | some host =>
      cases outcome : host.edit operation with
      | error fault =>
        simp only [hosted, outcome, Except.map]
        exact stays_elsewhere present rfl
      | ok result =>
        have placed : (workspace.setHost place result.1).sessions[number]? = some session :=
          present
        simp only [hosted, outcome, Except.map]
        exact stays_report placed _ _

/-- Telling a session to stop moves no worker. -/
theorem stays_cancel (present : workspace.sessions[number]? = some session) (other : Nat) :
    (workspace.cancel other).Stays number session := by
  by_cases same : other = number
  · exact ⟨session.cancel, by simp [cancel, same, present], rfl⟩
  · exact ⟨session, by simp [cancel, same, present], rfl⟩

/-- Connecting a document moves no worker. -/
theorem stays_activate (present : workspace.sessions[number]? = some session)
    (document : DocumentId) (host : Nat) (language : Text) :
    (workspace.activate document host language).1.Stays number session := by
  have inside := (List.getElem?_eq_some_iff.mp present).1
  rcases activate_cases workspace document host language with
    ⟨-, sessions⟩ | ⟨line, lines, usable, given⟩
  · exact stays_elsewhere present sessions
  · have placed : (workspace.placed document host language line lines).sessions[number]? =
        some session := by
      simp [List.getElem?_append_left inside, present]
    rw [activate_eq document host usable given]
    cases workspace.registered? document with
    | none => exact stays_elsewhere placed rfl
    | some replaced => exact stays_cancel placed replaced

/-- The worker of a session moves only by a step of its own, and where it does not step it takes no
reply and has its host do nothing. -/
inductive Moved (workspace : Workspace) (number : Nat) (session : Session) (move : Move) :
    Session → Prop where
  /-- The worker does not step. -/
  | stays {after : Session} (same : after.worker = session.worker)
      (idle : workspace.deeds number move = []) (silent : workspace.takes number move = []) :
      Moved workspace number session move after
  /-- The worker takes a step. -/
  | steps {after middle : Session} {host hostAfter : Host} {change : Option Change}
      (stepped : session.stepWorker host workspace.clock = some (middle, hostAfter, change))
      (same : after.worker = middle.worker)
      (does : workspace.deeds number move = session.worker.deed?.toList)
      (taken : workspace.takes number move = session.taking?.toList) :
      Moved workspace number session move after

/-- A step of any other actor moves no worker. -/
theorem act_stays {other : Nat} {actor : Actor}
    (present : workspace.sessions[number]? = some session)
    (foreign : Move.act other actor ≠ .act number .worker)
    (acted : workspace.act other actor = some next) : next.Stays number session := by
  obtain ⟨acting, acts, step⟩ := act_acted acted
  cases step with
  | intake stepped =>
    obtain ⟨intake, worked, rfl⟩ := Option.map_eq_some_iff.mp stepped
    exact stays_setSession present acts fun _ => rfl
  | outlet stepped =>
    obtain ⟨outlet, worked, rfl⟩ := Option.map_eq_some_iff.mp stepped
    exact stays_setSession present acts fun _ => rfl
  | @worker host hostAfter after change hosted stepped =>
    have different : other ≠ number := fun same => foreign (same ▸ rfl)
    have there : ((workspace.setSession other after).setHost acting.host
        hostAfter).sessions[number]? = some session :=
      (sessions_setSession_other _ different after).trans present
    exact stays_report there hostAfter change

/-- A step of a session's own worker moves this worker. -/
theorem act_moved (present : workspace.sessions[number]? = some session)
    (acted : workspace.act number .worker = some next) :
    next.Holds number (workspace.Moved number session (.act number .worker)) := by
  have step := act_acted_by present acted
  cases step with
  | @worker host hostAfter after change hosted stepped =>
    have there : ((workspace.setSession number after).setHost session.host
        hostAfter).sessions[number]? = some after := sessions_setSession present after
    obtain ⟨last, present', still⟩ := stays_report there hostAfter change
    exact ⟨last, present', .steps stepped still (deeds_own present acted) (takes_own present acted)⟩

/-- Every move but a step of the session's own worker leaves this worker where it stands. -/
theorem perform_stays (present : workspace.sessions[number]? = some session) {move : Move}
    (foreign : move ≠ .act number .worker) : (workspace.perform move).Stays number session := by
  cases move with
  | openDocument | forget | pass => exact stays_elsewhere present rfl
  | adjustHost document adjust =>
    refine stays_elsewhere present ?_
    simp only [perform, adjustHost]
    split <;> rfl
  | edit document operation => exact stays_edit present document operation
  | report document change => exact stays_documentChanged present document change
  | tell other change => exact stays_tellSession present other change
  | send document request =>
    simp only [perform, send]
    cases workspace.registered? document with
    | none => exact stays_elsewhere present rfl
    | some other => exact stays_sendBy present other request
  | sendBy other request => exact stays_sendBy present other request
  | restoreCursor other =>
    simp only [perform, restoreCursor]
    split
    · exact stays_elsewhere present rfl
    · next acts =>
      refine stays_setSession present acts fun _ => ?_
      rw [Session.restoreCursor_eq]
      exact sendAll_worker _ _
  | deliver connection content =>
    simp only [perform, deliver]
    split
    · next acts =>
      split
      · exact stays_elsewhere present rfl
      · exact stays_setSession present acts fun _ => rfl
    · split
      · exact stays_elsewhere present rfl
      · split <;> exact stays_elsewhere present rfl
  | arrive other arrivals => exact stays_withIntake present other _
  | endInbound other => exact stays_withIntake present other _
  | hangUp connection =>
    simp only [perform, hangUp]
    split
    · next acts => exact stays_setSession present acts fun _ => rfl
    · exact stays_elsewhere present rfl
  | activate document host language => exact stays_activate present document host language
  | cancel other => exact stays_cancel present other
  | act other actor =>
    simp only [perform]
    cases acted : workspace.act other actor with
    | none => exact stays_elsewhere present rfl
    | some next => exact act_stays present foreign acted

/-- Only a step of its own worker has a session's host do something for it. -/
theorem deeds_of_foreign {move : Move} (foreign : move ≠ .act number .worker) :
    workspace.deeds number move = [] := by
  cases move with
  | act other actor =>
    cases actor with
    | intake | outlet => rfl
    | worker =>
      have different : other ≠ number := fun same => foreign (same ▸ rfl)
      simp [deeds, different]
  | _ => rfl

/-- A session that is in place moves in every move, by a step of its worker or not at all. -/
theorem perform_moved (present : workspace.sessions[number]? = some session) (move : Move) :
    (workspace.perform move).Holds number (workspace.Moved number session move) := by
  by_cases own : move = .act number .worker
  · subst own
    simp only [perform]
    cases acted : workspace.act number .worker with
    | none => exact ⟨session, present, .stays rfl (deeds_of_waiting acted) (takes_of_waiting acted)⟩
    | some next => exact act_moved present acted
  · obtain ⟨after, there, same⟩ := perform_stays present own
    exact ⟨after, there, .stays same (deeds_of_foreign own) (takes_of_foreign own)⟩

/-- A step of an actor makes the steps of a session that was told to stop fewer. -/
theorem act_left {actor : Actor} (present : workspace.sessions[number]? = some session)
    (told : session.cancelled = true) (acted : workspace.act number actor = some next) :
    next.Holds number fun after => after.left < session.left := by
  have step := act_acted_by present acted
  cases step with
  | intake stepped =>
    obtain ⟨intake, worked, rfl⟩ := Option.map_eq_some_iff.mp stepped
    exact ⟨_, sessions_setSession present _, Session.left_intake told worked⟩
  | outlet stepped =>
    obtain ⟨outlet, worked, rfl⟩ := Option.map_eq_some_iff.mp stepped
    exact ⟨_, sessions_setSession present _, (Session.left_outlet told worked).1⟩
  | @worker host hostAfter after change hosted stepped =>
    have there : ((workspace.setSession number after).setHost session.host
        hostAfter).sessions[number]? = some after := sessions_setSession present after
    have still := (Session.stepWorker_cases stepped).kept.2.trans told
    obtain ⟨last, present', course⟩ := leads_report there hostAfter change
    exact ⟨last, present', Nat.lt_of_le_of_lt (course.silent still).left
      (Session.left_worker told stepped).1⟩

/-- In every move, the steps that a session takes are among those that it has left. -/
theorem stepsIn_le (present : workspace.sessions[number]? = some session)
    (told : session.cancelled = true) (move : Move) :
    (workspace.perform move).Holds number fun after =>
      workspace.stepsIn number move + after.left ≤ session.left := by
  by_cases own : ∃ actor, move = .act number actor ∧ (workspace.act number actor).isSome
  · obtain ⟨actor, rfl, acts⟩ := own
    obtain ⟨next, acted⟩ := Option.isSome_iff_exists.mp acts
    obtain ⟨after, there, less⟩ := act_left present told acted
    have one : workspace.stepsIn number (.act number actor) = 1 := by simp [stepsIn, acts]
    refine ⟨after, by simpa [perform, acted] using there, ?_⟩
    omega
  · have none : workspace.stepsIn number move = 0 := by
      cases move with
      | act other actor =>
        refine if_neg fun acts => own ⟨actor, ?_, acts.2⟩
        rw [acts.1]
      | _ => rfl
    obtain ⟨after, there, course⟩ := leads_perform present move
    have noMore := (course.silent told).left
    exact ⟨after, there, by omega⟩

/-- What becomes of a session that was told to stop: it is silent, its worker has the host do what
is on the agenda, and its steps are among those that it had left. -/
structure Closing (workspace : Workspace) (number : Nat) (session : Session) (moves : List Move)
    (after : Session) : Prop where
  latched : after.Latched
  silent : session.Silent (workspace.exchangeLog number moves) after
  deeds : workspace.deedLog number moves ++ after.worker.agenda = session.worker.agenda
  steps : workspace.stepCount number moves + after.left ≤ session.left

/-- A session that was told to stop winds up in every move. -/
theorem perform_closing (present : workspace.sessions[number]? = some session)
    (latched : session.Latched) (told : session.cancelled = true) (move : Move) :
    (workspace.perform move).Holds number (workspace.Closing number session [move]) := by
  obtain ⟨after, there, course⟩ := leads_perform present move
  obtain ⟨moved, there', moves⟩ := perform_moved present move
  obtain rfl : moved = after := Option.some.inj (there'.symm.trans there)
  obtain ⟨counted, there', fewer⟩ := stepsIn_le present told move
  obtain rfl : counted = moved := Option.some.inj (there'.symm.trans there)
  rw [heeds_calls present latched] at course
  refine ⟨counted, there, course.keeps Session.Latched.turn latched, ?_, ?_, fewer⟩
  · simpa [exchangeLog, exchanges] using course.silent told
  · cases moves with
    | stays same idle => simp [deedLog, idle, same]
    | steps stepped same does =>
      have none := (Session.left_worker told stepped).2.1
      have agenda := (Session.stepWorker_cases stepped).agenda.2 none
      simpa [deedLog, does, same] using agenda

/-- A session that was told to stop winds up in every run. -/
theorem run_closing (present : workspace.sessions[number]? = some session)
    (latched : session.Latched) (told : session.cancelled = true) (moves : List Move) :
    (workspace.run moves).Holds number (workspace.Closing number session moves) := by
  induction moves generalizing workspace session with
  | nil => exact ⟨session, present, latched, .refl told, rfl, Nat.le_of_eq (Nat.zero_add _)⟩
  | cons move rest inductionHypothesis =>
    obtain ⟨middle, there, first⟩ := perform_closing present latched told move
    obtain ⟨after, last, second⟩ := inductionHypothesis there first.latched first.silent.told
    have deeds := first.deeds
    have steps := first.steps
    have stepsLater := second.steps
    simp only [deedLog, stepCount, List.append_nil, Nat.add_zero] at deeds steps
    refine ⟨after, last, second.latched, ?_, ?_, ?_⟩
    · simpa [exchangeLog] using first.silent.trans second.silent
    · rw [deedLog, List.append_assoc, second.deeds, deeds]
    · simp only [stepCount]
      omega

/-- When an actor of a session takes a step, its host does what the step is for, and nothing happens
to the others. -/
theorem act_hosts {actor : Actor} (present : workspace.sessions[number]? = some session)
    (acted : workspace.act number actor = some next) :
    next.hosts = workspace.hosts.modify session.host fun host =>
      (workspace.deeds number (.act number actor)).foldl Host.does host := by
  have step := act_acted_by present acted
  cases step with
  | intake | outlet => exact (List.modify_id _ _).symm
  | @worker host hostAfter after change hosted stepped =>
    have does := (Session.stepWorker_cases stepped).agenda.1
    rw [(report_only _ _ _).hosts, deeds_own present acted, List.modify_eq_set_getElem?, hosted]
    simp [setHost, setSession, does]

/-- What the engine writes reaches no host. -/
theorem deliver_hosts (workspace : Workspace) (connection : Nat) (content : Bytes) :
    (workspace.deliver connection content).1.hosts = workspace.hosts := by
  unfold deliver
  split
  · split <;> rfl
  · split
    · rfl
    · split <;> rfl

/-- Nor does the end of a connection. -/
theorem hangUp_hosts (workspace : Workspace) (connection : Nat) :
    (workspace.hangUp connection).hosts = workspace.hosts := by
  unfold hangUp
  split <;> rfl

/-- Only a document that is opened brings a host. -/
theorem perform_hosts_length (workspace : Workspace) {move : Move}
    (other : ∀ host, move ≠ .openDocument host) :
    (workspace.perform move).hosts.length = workspace.hosts.length := by
  have same {next : Workspace} (hosts : next.hosts = workspace.hosts) :
      next.hosts.length = workspace.hosts.length :=
    congrArg List.length hosts
  cases move with
  | openDocument host => exact absurd rfl (other host)
  | adjustHost document adjust =>
    simp only [perform, adjustHost]
    split
    · rfl
    · simp
  | edit document operation =>
    simp only [perform, edit]
    cases workspace.hostOf? document with
    | none => rfl
    | some place =>
      cases hosted : workspace.hosts[place]? with
      | none => simp [hosted]
      | some host => cases outcome : host.edit operation <;>
          simp [hosted, outcome, Except.map, (report_only _ _ _).hosts, setHost]
  | report | tell | send | sendBy | restoreCursor | arrive | endInbound | cancel =>
    exact same (SessionsOnly.hosts (perform_only workspace trivial))
  | deliver connection content => exact same (deliver_hosts workspace connection content)
  | hangUp connection => exact same (hangUp_hosts workspace connection)
  | activate document host language => exact same (activate_hosts workspace document host language)
  | forget | pass => rfl
  | act number actor =>
    simp only [perform]
    cases acted : workspace.act number actor with
    | none => rfl
    | some next =>
      obtain ⟨session, present, -⟩ := act_acted acted
      simp [act_hosts present acted]

/-- No host is ever removed. -/
theorem perform_hosts_le (workspace : Workspace) (move : Move) :
    workspace.hosts.length ≤ (workspace.perform move).hosts.length := by
  by_cases opens : ∃ host, move = .openDocument host
  · obtain ⟨host, rfl⟩ := opens
    simp [perform, openDocument]
  · exact Nat.le_of_eq (workspace.perform_hosts_length fun host same => opens ⟨host, same⟩).symm

/-- Nor is one in a run. -/
theorem run_hosts_le (workspace : Workspace) (moves : List Move) :
    workspace.hosts.length ≤ (workspace.run moves).hosts.length := by
  induction moves generalizing workspace with
  | nil => exact Nat.le_refl _
  | cons move rest inductionHypothesis =>
    exact Nat.le_trans (workspace.perform_hosts_le move) (inductionHypothesis _)

/-- Nor is one when nothing happens but what happens by itself. -/
theorem Becomes.hosts_le (becomes : workspace.Becomes next) :
    workspace.hosts.length ≤ next.hosts.length := by
  obtain ⟨moves, -, rfl⟩ := becomes
  exact run_hosts_le workspace moves

/-- A session with a host that has been told to stop has ended, or one of its actors can take a
step, or its host is at work on an edit. -/
theorem act_goesOn (present : workspace.sessions[number]? = some session)
    (hosted : session.host < workspace.hosts.length) (told : session.cancelled = true) :
    session.hasEnded = true ∨ (∃ actor, (workspace.act number actor).isSome) ∨
      ∃ operation due effects, session.worker = .editing operation due effects ∧
        workspace.clock < due := by
  have there := List.getElem?_eq_getElem hosted
  rcases session.goesOn told workspace.hosts[session.host] workspace.clock with
    ended | intake | outlet | worker | waits
  · exact .inl ended
  · refine .inr (.inl ⟨.intake, ?_⟩)
    obtain ⟨after, stepped⟩ := Option.isSome_iff_exists.mp intake
    simp [act, present, stepped]
  · refine .inr (.inl ⟨.outlet, ?_⟩)
    obtain ⟨after, stepped⟩ := Option.isSome_iff_exists.mp outlet
    simp [act, present, stepped]
  · refine .inr (.inl ⟨.worker, ?_⟩)
    obtain ⟨after, stepped⟩ := Option.isSome_iff_exists.mp worker
    simp [act, present, there, stepped]
  · exact .inr (.inr waits)

/-- Telling a session to stop once more changes nothing. -/
theorem cancel_of_told (present : workspace.sessions[number]? = some session)
    (told : session.cancelled = true) : workspace.cancel number = workspace := by
  have same : session.cancel = session := by rw [Session.cancel, ← told]
  obtain ⟨inside, there⟩ := List.getElem?_eq_some_iff.mp present
  have still : workspace.sessions.set number session = workspace.sessions := by
    rw [← there]
    exact List.set_getElem_self inside
  rw [cancel, List.modify_eq_set_getElem?, present]
  simp [same, still]

/-- A session that has ended takes no steps. -/
theorem act_hasEnded (present : workspace.sessions[number]? = some session)
    (ended : session.hasEnded = true) (actor : Actor) : workspace.act number actor = none := by
  refine Option.eq_none_iff_forall_ne_some.mpr ?_
  intro next acted
  have step := act_acted_by present acted
  obtain ⟨intake, outlet, worker⟩ := Session.hasEnded_rests ended
  cases step with
  | intake stepped => cases intake.symm.trans stepped
  | outlet stepped => cases outlet.symm.trans stepped
  | worker hosted stepped => cases (worker _ _).symm.trans stepped

/-- While a session that was told to stop is left to itself, it keeps its host, and there are no
more edits to wait for than before, and one fewer when the edit at hand is done with. -/
structure Nears (workspace next : Workspace) (session after : Session) : Prop where
  told : after.cancelled = true
  place : after.host = session.host
  later : workspace.clock ≤ next.clock
  fewer : after.worker.editsAhead next.clock ≤ session.worker.editsAhead workspace.clock
  onward : ∀ operation due effects, session.worker = .editing operation due effects →
    after.worker = session.worker ∨ after.worker.editsAhead next.clock ≤ effects.length

/-- A session that was told to stop comes nearer to its end while it is left to itself. -/
theorem becomes_nears (becomes : workspace.Becomes next)
    (present : workspace.sessions[number]? = some session) (told : session.cancelled = true) :
    next.Holds number (workspace.Nears next session) := by
  obtain ⟨moves, own, rfl⟩ := becomes
  induction moves generalizing workspace session with
  | nil =>
    exact ⟨session, present, told, rfl, Nat.le_refl _, Nat.le_refl _, fun _ _ _ _ => .inl rfl⟩
  | cons move rest inductionHypothesis =>
    obtain ⟨-, later⟩ := List.forall_mem_cons.mp own
    have clock := (workspace.perform_onward move).2
    obtain ⟨middle, there, course⟩ := leads_perform present move
    obtain ⟨moved, there', moves⟩ := perform_moved present move
    obtain rfl : moved = middle := Option.some.inj (there'.symm.trans there)
    have silent := course.silent told
    obtain ⟨after, last, nears⟩ := inductionHypothesis there silent.told later
    have ageing := Nat.le_trans nears.fewer (moved.worker.editsAhead_le clock)
    refine ⟨after, last, nears.told, nears.place.trans silent.place,
      Nat.le_trans clock nears.later, ?_, ?_⟩
    · cases moves with
      | stays same => rwa [same] at ageing
      | steps stepped same =>
        rw [same] at ageing
        exact Nat.le_trans ageing (Session.stepWorker_editsAhead told stepped).1
    · intro operation due effects stage
      cases moves with
      | stays same =>
        exact (nears.onward operation due effects (same.trans stage)).imp (·.trans same) id
      | steps stepped same =>
        rw [same] at ageing
        exact .inr (Nat.le_trans ageing
          ((Session.stepWorker_editsAhead told stepped).2 operation due effects stage))

/-- Waiting for a session that was told to stop lets it end, when it has a host. -/
theorem awaitWithin_ended {count : Nat} (present : workspace.sessions[number]? = some session)
    (hosted : session.host < workspace.hosts.length) (told : session.cancelled = true)
    (enough : session.worker.editsAhead workspace.clock < count) :
    workspace.Becomes (awaitWithin count workspace number) ∧
      (awaitWithin count workspace number).Holds number fun after => after.hasEnded = true := by
  induction count generalizing workspace session with
  | zero => exact absurd enough (Nat.not_lt_zero _)
  | succ count inductionHypothesis =>
    obtain ⟨becomes, -, rests⟩ := settle_rests workspace
    obtain ⟨after, there, nears⟩ := becomes_nears becomes present told
    have place : after.host < workspace.settle.hosts.length := by
      rw [nears.place]
      exact Nat.lt_of_lt_of_le hosted becomes.hosts_le
    rcases act_goesOn there place nears.told with
      ended | ⟨actor, acts⟩ | ⟨operation, due, effects, stage, early⟩
    · have stopped : after.worker = .finished := by
        simp only [Session.hasEnded, Bool.and_eq_true, decide_eq_true_eq] at ended
        exact ended.2
      simp only [awaitWithin, there, Option.map_some, stopped]
      exact ⟨becomes, after, there, ended⟩
    · rw [act_of_rests rests] at acts
      cases acts
    · -- The host finishes the edit while time passes, and then there is one fewer to wait for.
      obtain ⟨passes, clock⟩ := workspace.settle.advance_becomes (due - workspace.settle.clock)
      obtain ⟨last, present', nearer⟩ := becomes_nears passes there nears.told
      rw [Nat.add_sub_cancel' (Nat.le_of_lt early)] at clock
      have fewer := nears.fewer
      rw [stage, Worker.editsAhead, if_neg (Nat.not_le.mpr early)] at fewer
      have ahead : last.worker.editsAhead
          (workspace.settle.advance (due - workspace.settle.clock)).clock ≤ effects.length := by
        rcases nearer.onward operation due effects stage with same | less
        · rw [same, stage, clock]
          simp [Worker.editsAhead]
        · exact less
      obtain ⟨later, ended⟩ := inductionHypothesis present'
        (by
          rw [nearer.place]
          exact Nat.lt_of_lt_of_le place passes.hosts_le)
        nearer.told (by omega)
      simp only [awaitWithin, there, Option.map_some, stage]
      exact ⟨(becomes.trans passes).trans later, ended⟩

/-- The session that is waited for ends, when it was told to stop and has a host. -/
theorem awaitEnd_ended (present : workspace.sessions[number]? = some session)
    (hosted : session.host < workspace.hosts.length) (told : session.cancelled = true) :
    workspace.Becomes (workspace.awaitEnd number) ∧
      (workspace.awaitEnd number).Holds number fun after => after.hasEnded = true := by
  refine awaitWithin_ended present hosted told ?_
  rw [present, Option.map_some, Option.getD_some]
  exact Nat.lt_succ_of_le (session.editsAhead_le_effectsLeft workspace.clock)

/-- Closing a session ends it, when it has a host. -/
theorem close_ended (present : workspace.sessions[number]? = some session)
    (hosted : session.host < workspace.hosts.length) :
    (workspace.cancel number).Becomes (workspace.close number) ∧
      (workspace.close number).Holds number fun after => after.hasEnded = true := by
  have there : (workspace.cancel number).sessions[number]? = some session.cancel := by
    simp [cancel, present]
  exact awaitEnd_ended there hosted rfl

/-- Closing a session never gets stuck, and it stops everything behind it.

Waiting for the session lets it end. And whatever happens after it was told to stop, in any order:
until it has ended one of its actors can take a step, or its host is at work on an edit, and there
are no more steps than it had left at first. It takes no reply, so its completion changes by
requests only; what its worker has the host do in this time is the beginning of what was left of
the reply at hand, and no step of the session changes anything else about a document. Not a byte
is written. Telling it to stop once more changes nothing, and when it has ended it takes no
step. -/
theorem closing_ends (reached : workspace.Reached)
    (present : workspace.sessions[number]? = some session)
    (hosted : session.host < workspace.hosts.length) (moves : List Move) :
    ((workspace.close number).Holds number fun after => after.hasEnded = true) ∧
      let closing := workspace.cancel number
      let later := closing.run moves
      ∃ after, later.sessions[number]? = some after ∧
        (after.hasEnded = true ∨ (∃ actor, (later.act number actor).isSome) ∨
          ∃ operation due effects, after.worker = .editing operation due effects ∧
            later.clock < due) ∧
        closing.stepCount number moves + after.left ≤ session.left ∧
        (∃ asked sent : List Request, closing.exchangeLog number moves = asked.map .asked ∧
          sent.Sublist asked ∧ after.completion = sent.foldl Completion.sent session.completion) ∧
        closing.deedLog number moves ++ after.worker.agenda = session.worker.agenda ∧
        (∀ actor next, later.act number actor = some next →
          next.hosts = later.hosts.modify session.host fun host =>
            (later.deeds number (.act number actor)).foldl Host.does host) ∧
        after.outlet.sink.written = session.outlet.sink.written ∧
        later.cancel number = later ∧
        (after.hasEnded = true → ∀ actor, later.act number actor = none) := by
  refine ⟨(close_ended present hosted).2, ?_⟩
  intro closing later
  have told : closing.sessions[number]? = some session.cancel := by
    simp [closing, cancel, present]
  have latched : session.cancel.Latched := (reached.sound number session present).latched
  obtain ⟨after, there, winds⟩ := run_closing told latched rfl moves
  have place : after.host < later.hosts.length := by
    rw [winds.silent.place]
    exact Nat.lt_of_lt_of_le hosted (closing.run_hosts_le moves)
  refine ⟨after, there, act_goesOn there place winds.silent.told, winds.steps, winds.silent.heard,
    winds.deeds, ?_, winds.silent.written, ?_, act_hasEnded there⟩
  · intro actor next acted
    have hosts := act_hosts there acted
    rwa [winds.silent.place] at hosts
  · exact cancel_of_told there winds.silent.told

/-- A client whose host takes its time for an expansion, with another reply and a request queued. -/
def expansionUnderWay : Workspace :=
  (start .defaults [] [.fresh] (.noSession ⟨['d']⟩)).run
    ([.openDocument { Host.ofBuffer ⟨['d']⟩ .ordinary .empty true with delay := 5 },
      .activate ⟨['d']⟩ 0 ['c'], .act 0 .outlet, .deliver 0 [112, 0, 0]] ++
      List.replicate 7 (.act 0 .intake) ++ List.replicate 3 (.act 0 .worker) ++
      [.send ⟨['d']⟩ .revert])

/-- The host finishes the edit, and everybody stops. -/
def windingUp : List Move :=
  [.pass 5, .act 0 .worker, .act 0 .worker, .act 0 .worker, .act 0 .worker, .act 0 .intake,
    .act 0 .outlet]

/-- A session told to stop in the middle of an expansion finishes it, and leaves the other reply and
the request where they are. -/
theorem closing_ends_expansion :
    ∃ session after, expansionUnderWay.Reached ∧
      expansionUnderWay.sessions[0]? = some session ∧
      session.host < expansionUnderWay.hosts.length ∧
      ((expansionUnderWay.cancel 0).run windingUp).sessions[0]? = some after ∧
      after.intake.queue = [.ok] ∧ after.outlet.queue = [.revert] ∧
      after.outlet.sink.written = [5, 99, 0] ∧
      (expansionUnderWay.cancel 0).deedLog 0 windingUp ++ after.worker.agenda =
        [.edit (.replace 0 1 ['p']), .finish] ∧
      ∀ actor, ((expansionUnderWay.cancel 0).run windingUp).act 0 actor = none := by
  have reached : expansionUnderWay.Reached := ⟨_, _, _, _, _, rfl⟩
  obtain ⟨session, present, hosted, agenda, written⟩ :
      ∃ session, expansionUnderWay.sessions[0]? = some session ∧
        session.host < expansionUnderWay.hosts.length ∧
        session.worker.agenda = [.edit (.replace 0 1 ['p']), .finish] ∧
        session.outlet.sink.written = [5, 99, 0] :=
    ⟨_, rfl, by decide, by decide, by decide⟩
  obtain ⟨-, after, there, -, -, -, deeds, -, unwritten, -, rests⟩ :=
    closing_ends reached present hosted windingUp
  obtain ⟨ended, replies, requests⟩ : after.hasEnded = true ∧ after.intake.queue = [.ok] ∧
      after.outlet.queue = [.revert] := by
    have stage : (((expansionUnderWay.cancel 0).run windingUp).sessions[0]?.map fun after =>
        (after.hasEnded, after.intake.queue, after.outlet.queue)) =
        some (true, [.ok], [.revert]) := by decide
    rw [there] at stage
    simpa using stage
  exact ⟨session, after, reached, present, hosted, there, replies, requests,
    unwritten.trans written, deeds.trans agenda, rests ended⟩

end Workspace

end Typeahead

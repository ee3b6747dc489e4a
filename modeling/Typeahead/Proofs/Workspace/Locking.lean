import Typeahead.Proofs.Workspace.Insertion
import Typeahead.Proofs.Workspace.Timing

/-!
# The insert lock over whole runs

A lock is one flag, so it could be lowered by whoever is done first. It is not, because a session
deals with one reply at a time: in every run the replies taken and the replies done with alternate,
and the lock is up exactly in between (`run_balance`). That is seen from the agenda of the worker,
on which the end of a reply stands once while a reply is being applied, and not at all otherwise.

While the lock is up, only requests can bring about that an answer is awaited again
(`Course.phase_of_applying`). A reply for which the host does not tell the cursor goes the same way
with nothing on the agenda but its end, and leaves no trace: the next reply does what it would have
done without it (`perform_following`).
-/

namespace Typeahead

namespace Exchange

/-- A history without replies is one of requests. -/
theorem eq_asked {history : List Exchange} (none : replies history = []) :
    history = (requests history).map .asked := by
  induction history with
  | nil => rfl
  | cons exchange rest inductionHypothesis =>
    cases exchange with
    | asked request => exact congrArg (.asked request :: ·) (inductionHypothesis none)
    | taken reply => cases none

/-- Replies taken hold no requests. -/
theorem requests_taken (replies : List Reply) : Exchange.requests (replies.map .taken) = [] := by
  simp [Exchange.requests, request?]

end Exchange

namespace Completion

/-- Whether an answer is outstanding makes no difference to what comes of requests but to whether
one is outstanding. -/
theorem foldl_sent_expireWait (completion : Completion) (requests : List Request) :
    (requests.foldl sent completion.expireWait).expireWait =
      (requests.foldl sent completion).expireWait := by
  cases requests <;> rfl

end Completion

namespace Worker

/-- The end of a reply is on the agenda once while a reply is being applied. -/
theorem count_finish_agenda (worker : Worker) :
    worker.agenda.count .finish = worker.isApplying.toNat := by
  have others (effects : List Effect) : (effects.map Effect.deed).count .finish = 0 := by
    refine List.count_eq_zero.mpr fun member => ?_
    obtain ⟨effect, -, same⟩ := List.mem_map.mp member
    cases effect <;> cases same
  cases worker with
  | applying effects => simp [agenda, others, isApplying]
  | editing operation due effects => simp [agenda, others, isApplying]
  | _ => rfl

/-- The worker ends a reply when nothing else is left to do. -/
theorem applying_of_finish {worker : Worker} (finishes : worker.deed? = some .finish) :
    worker = .applying [] := by
  cases worker with
  | applying effects =>
    cases effects with
    | nil => rfl
    | cons effect rest => cases effect <;> cases finishes
  | _ => cases finishes

end Worker

namespace Session

variable {session after next : Session} {host hostAfter : Host} {now : Nat}
  {change : Option Change} {exchanges : List Exchange} {limit : Option Nat}

/-- A worker that takes a reply applies it. -/
theorem beginReply_applying (session : Session) (host : Host) (reply : Reply) :
    (session.beginReply host reply).worker.isApplying = true := by
  unfold beginReply
  split <;> rfl

/-- A step takes a reply or ends one as the worker comes to apply one or is done with it. -/
theorem WorkerStep.balance (step : session.WorkerStep host now next hostAfter change) :
    session.taking?.toList.length + session.worker.isApplying.toNat =
      session.worker.deed?.toList.count .finish + next.worker.isApplying.toNat := by
  cases takes : session.taking? with
  | none =>
    have agenda := congrArg (List.count .finish) (step.agenda.2 takes)
    rw [List.count_append, Worker.count_finish_agenda, Worker.count_finish_agenda] at agenda
    simpa using agenda.symm
  | some reply =>
    obtain ⟨deadline, queue, stage, -⟩ := taking?_eq_some takes
    cases step with
    | takes =>
      rw [beginReply_applying, stage]
      rfl
    | stops _ stopping => cases (taking?_of_stopping stopping).symm.trans takes
    | notices _ empty | expires _ empty => cases (taking?_of_empty empty).symm.trans takes
    | waits other | tells other | asks other | edits other | passesOver other | ends other =>
      cases stage.symm.trans other

/-- A turn that leaves the worker applying a reply, and in which none is taken, changes the phase as
the requests in it do, and the worker was applying a reply before. -/
theorem Turn.phase_of_applying (turn : session.Turn exchanges after)
    (none : Exchange.replies exchanges = []) (applying : after.worker.isApplying = true) :
    session.worker.isApplying = true ∧
      after.completion.phase = exchanges.foldl Phase.after session.completion.phase := by
  cases turn with
  | asked requests =>
    obtain ⟨_, _, _, _, sent⟩ := sendAll_kept requests session
    refine ⟨?_, sendAll_phase requests session⟩
    rw [sent] at applying
    exact applying
  | inbound | outbound | cancelled => exact ⟨applying, rfl⟩
  | worked stepped =>
    cases stepWorker_cases stepped with
    | waits | stops | notices | expires | ends => cases applying
    | takes stage active first =>
      rw [taking?_of_first stage active first] at none
      cases none
    | tells stage | asks stage | edits stage | passesOver stage =>
      exact ⟨by rw [stage]; rfl, by simp [taking?, stage]⟩

/-- So does a course: once the worker is done with its reply, it has to take another one before it
applies one again. -/
theorem Course.phase_of_applying (course : session.Course exchanges after)
    (none : Exchange.replies exchanges = []) (applying : after.worker.isApplying = true) :
    session.worker.isApplying = true ∧
      after.completion.phase = exchanges.foldl Phase.after session.completion.phase := by
  induction course with
  | rest session => exact ⟨applying, rfl⟩
  | turn turn _ inductionHypothesis =>
    rw [Exchange.replies_append, List.append_eq_nil_iff] at none
    obtain ⟨between, later⟩ := inductionHypothesis none.2 applying
    obtain ⟨before, first⟩ := turn.phase_of_applying none.1 between
    refine ⟨before, ?_⟩
    rw [later, first, List.foldl_append]

/-- Only a session that was told to stop refuses a request. -/
theorem Timed.accepts (timed : session.Timed limit) (active : session.cancelled = false)
    (request : Request) : (session.send request).2 = .ok () := by
  have working : session.outlet.finished = false := by
    refine eq_false_of_ne_true fun finished => ?_
    exact Bool.false_ne_true (active.symm.trans (timed.sends.2 finished))
  simp [Session.send, Outlet.send?, timed.sends.1, working]

/-- A session that was not told to stop remembers all requests that are to be sent. -/
theorem Timed.sendAll_completion (timed : session.Timed limit) (active : session.cancelled = false)
    (requests : List Request) :
    (Session.sendAll requests session).1.completion =
      requests.foldl Completion.sent session.completion := by
  induction requests generalizing session with
  | nil => rfl
  | cons request rest inductionHypothesis =>
    have accepted := timed.accepts active request
    have still := timed.send request
    have remembers := (session.send_kept request).1
    have goesOn : (session.send request).1.cancelled = false := by
      unfold Session.send
      split <;> exact active
    rw [Session.sendAll]
    split
    · next refused =>
      rw [refused] at accepted
      cases accepted
    · next sent =>
      rw [sent] at still remembers goesOn
      rw [List.foldl_cons, ← remembers]
      exact inductionHypothesis still goesOn

/-- A session that goes on after some turns went on all the time. -/
theorem Course.active (course : session.Course exchanges after) (active : after.cancelled = false) :
    session.cancelled = false := by
  refine eq_false_of_ne_true fun told => ?_
  exact Bool.false_ne_true (active.symm.trans (course.silent told).told)

/-- A turn in which no reply is taken does to the completion what its requests do, up to the end of
a wait. -/
theorem Turn.remembers (turn : session.Turn exchanges after) (timed : session.Timed limit)
    (active : after.cancelled = false) (none : Exchange.replies exchanges = []) :
    after.completion.expireWait =
      ((Exchange.requests exchanges).foldl Completion.sent session.completion).expireWait := by
  have before := turn.course.active active
  cases turn with
  | asked requests => rw [Exchange.requests_asked, timed.sendAll_completion before]
  | inbound | outbound | cancelled => rfl
  | worked stepped =>
    rw [Exchange.requests_taken]
    cases stepWorker_cases stepped with
    | takes stage going first =>
      rw [taking?_of_first stage going first] at none
      cases none
    | _ => rfl

/-- So does a course. -/
theorem Course.remembers (course : session.Course exchanges after) (timed : session.Timed limit)
    (active : after.cancelled = false) (none : Exchange.replies exchanges = []) :
    after.completion.expireWait =
      ((Exchange.requests exchanges).foldl Completion.sent session.completion).expireWait := by
  induction course with
  | rest session => rfl
  | turn turn course inductionHypothesis =>
    rw [Exchange.replies_append, List.append_eq_nil_iff] at none
    have later := inductionHypothesis (timed.turn _ _ _ _ turn) active none.2
    have first := turn.remembers timed (course.active active) none.1
    rw [later, Exchange.requests_append, List.foldl_append, ← Completion.foldl_sent_expireWait,
      first, Completion.foldl_sent_expireWait]

/-- What a reply asks of the host. That is nothing when the host does not tell the cursor. -/
def asks (session : Session) (host : Host) (reply : Reply) : List Effect :=
  match host.cursor with
  | .error _ => []
  | .ok cursor => (session.completion.apply reply cursor).2

/-- When a reply is taken, what it asks of the host stands on the agenda, and behind that its end. -/
theorem beginReply_agenda (session : Session) (host : Host) (reply : Reply) :
    (session.beginReply host reply).worker.agenda =
      (session.asks host reply).map Effect.deed ++ [.finish] := by
  unfold beginReply asks
  cases host.cursor <;> rfl

/-- A worker in the middle of a reply can take a step, which is one less to come, or its host is at
work on an edit. -/
theorem step_of_applying (applying : session.worker.isApplying = true) (host : Host) (now : Nat) :
    (∃ next hostAfter change, session.stepWorker host now = some (next, hostAfter, change) ∧
      next.worker.left < session.worker.left) ∨
      ∃ operation due effects, session.worker = .editing operation due effects ∧ now < due := by
  cases worked : session.stepWorker host now with
  | some result =>
    obtain ⟨next, hostAfter, change⟩ := result
    have fewer := (stepWorker_cases worked).left_lt (.inr applying)
    exact .inl ⟨next, hostAfter, change, rfl, fewer⟩
  | none =>
    refine .inr ?_
    cases stage : session.worker with
    | applying effects =>
      cases effects with
      | nil => simp [stepWorker, stage] at worked
      | cons effect rest => cases effect <;> simp [stepWorker, stage] at worked
    | editing operation due effects =>
      refine ⟨operation, due, effects, rfl, ?_⟩
      by_contra late
      simp only [stepWorker, stage, Nat.le_of_not_lt late, if_true] at worked
      split at worked <;> cases worked
    | turning | parked | finished =>
      rw [stage] at applying
      cases applying

end Session

namespace Workspace

variable {workspace : Workspace} {number : Nat} {session : Session} {host : Host} {reply : Reply}

/-- The replies that pass in a move are those that are taken. -/
theorem replies_exchanges (workspace : Workspace) (number : Nat) (move : Move) :
    Exchange.replies (workspace.exchanges number move) = workspace.takes number move := by
  simp [exchanges, Exchange.replies, Exchange.reply?, Function.comp_def]

/-- In a move, a reply is taken or done with as the lock goes up or down. -/
theorem perform_balance (present : workspace.sessions[number]? = some session)
    (latched : session.Latched) (move : Move) :
    (workspace.perform move).Holds number fun after => after.Latched ∧
      (workspace.takes number move).length + session.locked.toNat =
        (workspace.deeds number move).count .finish + after.locked.toNat := by
  obtain ⟨after, there, moved⟩ := perform_moved present move
  obtain ⟨again, there', course⟩ := leads_perform present move
  obtain rfl : after = again := Option.some.inj (there.symm.trans there')
  have latchedAfter := course.keeps Session.Latched.turn latched
  refine ⟨after, there, latchedAfter, ?_⟩
  unfold Session.Latched at latched latchedAfter
  rw [latched, latchedAfter]
  cases moved with
  | stays same idle silent =>
    rw [same, idle, silent]
    rfl
  | steps stepped same does taken =>
    rw [same, does, taken]
    exact (Session.stepWorker_cases stepped).balance

/-- In every run, the replies taken and those done with alternate, and the lock is up in between. -/
theorem run_balance (present : workspace.sessions[number]? = some session)
    (latched : session.Latched) (moves : List Move) :
    (workspace.run moves).Holds number fun after => after.Latched ∧
      (Exchange.replies (workspace.exchangeLog number moves)).length + session.locked.toNat =
        (workspace.deedLog number moves).count .finish + after.locked.toNat := by
  induction moves generalizing workspace session with
  | nil => exact ⟨session, present, latched, rfl⟩
  | cons move rest inductionHypothesis =>
    obtain ⟨middle, there, latchedMiddle, first⟩ := perform_balance present latched move
    obtain ⟨after, last, latchedAfter, later⟩ := inductionHypothesis there latchedMiddle
    refine ⟨after, last, latchedAfter, ?_⟩
    rw [exchangeLog, deedLog, Exchange.replies_append, replies_exchanges, List.length_append,
      List.count_append]
    omega

/-- In a run in which no reply is taken, the host does the first things on the agenda, and the others
are left on it. -/
theorem run_agenda (present : workspace.sessions[number]? = some session) (moves : List Move)
    (none : Exchange.replies (workspace.exchangeLog number moves) = []) :
    (workspace.run moves).Holds number fun after =>
      workspace.deedLog number moves ++ after.worker.agenda = session.worker.agenda := by
  induction moves generalizing workspace session with
  | nil => exact ⟨session, present, rfl⟩
  | cons move rest inductionHypothesis =>
    rw [exchangeLog, Exchange.replies_append, List.append_eq_nil_iff, replies_exchanges] at none
    obtain ⟨middle, there, moved⟩ := perform_moved present move
    obtain ⟨after, last, later⟩ := inductionHypothesis there none.2
    refine ⟨after, last, ?_⟩
    simp only [deedLog, List.append_assoc, later]
    cases moved with
    | stays same idle =>
      rw [same, idle]
      rfl
    | steps stepped same does taken =>
      rw [same, does]
      have idle : session.taking? = Option.none := by
        simpa using taken.symm.trans none.1
      exact (Session.stepWorker_cases stepped).agenda.2 idle

/-- A host that hears of the end of a reply keeps its text. -/
theorem texts_replyApplied {place : Nat} (hosted : workspace.hosts[place]? = some host) :
    (workspace.hosts.set place host.replyApplied).map (fun home => home.buffer.text) =
      workspace.hosts.map fun home => home.buffer.text := by
  obtain ⟨inside, there⟩ := List.getElem?_eq_some_iff.mp hosted
  have text := (Host.SameText.replyApplied host).text
  rw [List.map_set, text, ← List.map_set, ← there, List.set_getElem_self]

/-- What the end of a reply does: it unlocks the session and leaves the completion alone. Of all
hosts only that of the session hears of it, and the text of every document stays. -/
structure Finishes (workspace : Workspace) (number : Nat) (session : Session) (next : Workspace) :
    Prop where
  unlocked : next.sessions[number]? =
    some { session with locked := false, worker := .turning none }
  told : ∃ home, workspace.hosts[session.host]? = some home ∧
    next.hosts = workspace.hosts.set session.host home.replyApplied
  texts : (next.hosts.map fun home => home.buffer.text) =
    workspace.hosts.map fun home => home.buffer.text

/-- A move in which the host hears of the end of a reply is such an end. -/
theorem perform_finishes (present : workspace.sessions[number]? = some session) {move : Move}
    (finishes : workspace.deeds number move = [.finish]) :
    workspace.Finishes number session (workspace.perform move) := by
  have own : move = .act number .worker := by
    by_contra foreign
    rw [deeds_of_foreign foreign] at finishes
    cases finishes
  subst own
  cases acted : workspace.act number .worker with
  | none =>
    rw [deeds_of_waiting acted] at finishes
    cases finishes
  | some next =>
    have stage : session.worker = .applying [] := by
      refine Worker.applying_of_finish (Option.mem_toList.mp ?_)
      rw [← deeds_own present acted, finishes]
      exact List.mem_singleton_self _
    have step := act_acted_by present acted
    cases step with
    | @worker home _ _ _ hosted _ =>
      have stepped : session.stepWorker home workspace.clock =
          some ({ session with locked := false, worker := .turning none }, home.replyApplied,
            none) := by
        simp [Session.stepWorker, stage]
      rw [perform_steps present hosted stepped]
      exact ⟨sessions_setSession present _, ⟨home, hosted, rfl⟩, texts_replyApplied hosted⟩

/-- How it stands with a session that has taken a reply and is not done with it. -/
structure UnderWay (taken : Workspace) (number : Nat) (agenda : List Deed) (during : List Move)
    (after : Session) : Prop where
  locked : after.locked = true
  /-- No other reply has been taken. -/
  alone : Exchange.replies (taken.exchangeLog number during) = []
  /-- What has been done, and what is left to do, is what the reply asks for. -/
  agenda : taken.deedLog number during ++ after.worker.agenda = agenda
  /-- An answer is awaited only to a request that was made since the reply was taken. -/
  awaits : after.isAwaitingReply = true ↔
    Exchange.requests (taken.exchangeLog number during) ≠ []
  /-- The worker does not have to wait but for the host, and every step is one less to come. -/
  goesOn : ∃ home, (taken.run during).hosts[after.host]? = some home ∧
    ((∃ next hostAfter change, after.stepWorker home (taken.run during).clock =
        some (next, hostAfter, change) ∧ next.worker.left < after.worker.left) ∨
      ∃ operation due effects, after.worker = .editing operation due effects ∧
        (taken.run during).clock < due)
  /-- The end of the reply unlocks the session. -/
  ends : ∀ move, (taken.run during).deeds number move = [.finish] →
    (taken.run during).Finishes number after ((taken.run during).perform move)

/-- It stands so until the host hears of the end of the reply. -/
theorem run_underWay (present : workspace.sessions[number]? = some session)
    (hosted : workspace.hosts[session.host]? = some host) (latched : session.Latched)
    (locked : session.locked = true) (idle : session.completion.phase = .idle) {during : List Move}
    (unfinished : .finish ∉ workspace.deedLog number during) :
    (workspace.run during).Holds number
      (workspace.UnderWay number session.worker.agenda during) := by
  obtain ⟨after, there, latchedAfter, balance⟩ := run_balance present latched during
  rw [List.count_eq_zero.mpr unfinished, locked] at balance
  have lockedAfter : after.locked = true := by
    cases still : after.locked with
    | true => rfl
    | false =>
      rw [still] at balance
      exact absurd balance (Nat.succ_ne_zero _)
  have alone : Exchange.replies (workspace.exchangeLog number during) = [] := by
    rw [lockedAfter] at balance
    exact List.eq_nil_of_length_eq_zero (Nat.add_right_cancel balance)
  have applying : after.worker.isApplying = true := latchedAfter.symm.trans lockedAfter
  obtain ⟨again, there', agenda⟩ := run_agenda present during alone
  obtain rfl : after = again := Option.some.inj (there.symm.trans there')
  obtain ⟨again, there', course⟩ := leads_run present latched during
  obtain rfl : after = again := Option.some.inj (there.symm.trans there')
  have inside : after.host < (workspace.run during).hosts.length := by
    rw [(course.remains alone).place]
    exact Nat.lt_of_lt_of_le (List.getElem?_eq_some_iff.mp hosted).1 (run_hosts_le workspace during)
  have phase := (course.phase_of_applying alone applying).2
  rw [idle, Exchange.eq_asked alone] at phase
  refine ⟨after, there, lockedAfter, alone, agenda, ?_, ?_, fun move => perform_finishes there⟩
  · rw [Session.isAwaitingReply, decide_eq_true_eq, phase]
    cases Exchange.requests (workspace.exchangeLog number during) with
    | nil => simp
    | cons request rest => simp [Phase.after, Phase.foldl_asked]
  · exact ⟨_, List.getElem?_eq_getElem inside, Session.step_of_applying applying _ _⟩

/-- A worker that takes a reply begins with it, and does nothing else. -/
theorem perform_begins (present : workspace.sessions[number]? = some session)
    (takes : session.taking? = some reply)
    (hosted : workspace.hosts[session.host]? = some host) :
    ∃ queue, workspace.perform (.act number .worker) = workspace.setSession number
      (Session.beginReply { session with intake := { session.intake with queue } } host reply) := by
  obtain ⟨deadline, queue, stage, active, first⟩ := Session.taking?_eq_some takes
  refine ⟨queue, perform_alone present hosted ?_⟩
  simp [Session.stepWorker, stage, Session.stepParked, active, first]

/-- A reply for which the host did not tell the cursor leaves no trace. -/
structure NoTrace (workspace : Workspace) (number : Nat) (session : Session) (taken : Workspace) :
    Prop where
  hosts : taken.hosts = workspace.hosts
  /-- The wait for an answer is over, and nothing else has changed. -/
  completion : taken.Holds number fun dropped =>
    dropped.completion = { session.completion with phase := .idle }
  /-- The next reply for which the host tells the cursor does what it would have done without this
  one. Only the requests made in the meantime count. -/
  following : ∀ {during : List Move} {following : Reply} {cursor : Nat} {after : Session}
    {home : Host}, Exchange.replies (taken.exchangeLog number during) = [] →
    (taken.run during).sessions[number]? = some after → after.taking? = some following →
    (taken.run during).hosts[after.host]? = some home → home.cursor = .ok cursor →
    let remembered :=
      (Exchange.requests (taken.exchangeLog number during)).foldl Completion.sent session.completion
    ((taken.run during).perform (.act number .worker)).Holds number fun answering =>
      answering.locked = true ∧
        answering.completion = (remembered.apply following cursor).1 ∧
        answering.worker = .applying (remembered.apply following cursor).2

/-- Without the cursor a reply leaves no trace. -/
theorem noTrace (reached : workspace.Reached) (present : workspace.sessions[number]? = some session)
    (takes : session.taking? = some reply)
    (hosted : workspace.hosts[session.host]? = some host) {fault : Fault}
    (untold : host.cursor = .error fault) :
    workspace.NoTrace number session (workspace.perform (.act number .worker)) := by
  obtain ⟨queue, begun⟩ := perform_begins present takes hosted
  simp only [Session.beginReply, untold] at begun
  have timed := (reached.run [.act number .worker]).timed
  simp only [run, begun] at timed ⊢
  refine ⟨rfl, ⟨_, sessions_setSession present _, rfl⟩, ?_⟩
  intro during following cursor after home none there takes hosted told remembered
  have there' := sessions_setSession present { session with
    intake := { session.intake with queue }
    locked := true
    completion := session.completion.expireWait
    worker := .applying [] }
  obtain ⟨again, arrived, course⟩ := leads_run there' rfl during
  obtain rfl : after = again := Option.some.inj (there.symm.trans arrived)
  obtain ⟨-, -, -, active, -⟩ := Session.taking?_eq_some takes
  -- Both have been told of the same requests, and a reply does not look at the phase.
  have remembers : after.completion.expireWait = remembered.expireWait :=
    (course.remembers (timed number _ there') active none).trans
      (Completion.foldl_sent_expireWait _ _)
  have same : after.completion.apply following cursor = remembered.apply following cursor := by
    rw [← Completion.apply_expireWait, remembers, Completion.apply_expireWait]
  obtain ⟨-, answering, took⟩ := perform_takes there takes hosted told
  exact ⟨answering, took.present, took.locked, same ▸ took.completion, same ▸ took.worker⟩

/-- The lock of a session is up exactly while a reply is being applied.

In every run, the replies taken and those done with alternate, beginning with the end of a reply if
the session is locked already, and the lock is up exactly between the two. Only a session that was
told to stop refuses requests.

From the moment at which a reply is taken and until the host hears of the end of it, whatever
happens, the session stays locked and takes no other reply, what it has its host do is what the
reply asks for, in order, and it awaits an answer just when a request was made in the meantime. Its
worker goes on, with fewer and fewer steps to come, unless the host is at work on an edit. In the
end the host hears of the reply once, which unlocks the session.

A reply for which the host does not tell the cursor asks for nothing, and leaves no trace. -/
theorem lock_spans_reply (reached : workspace.Reached)
    (present : workspace.sessions[number]? = some session)
    (hosted : workspace.hosts[session.host]? = some host) :
    (∀ moves, (workspace.run moves).Holds number fun after =>
      (Exchange.replies (workspace.exchangeLog number moves)).length + session.locked.toNat =
          (workspace.deedLog number moves).count .finish + after.locked.toNat ∧
        (after.cancelled = false → ∀ request, (after.send request).2 = .ok ())) ∧
    ∀ reply, session.taking? = some reply →
      let taken := workspace.perform (.act number .worker)
      (∀ during, .finish ∉ taken.deedLog number during → (taken.run during).Holds number
        (taken.UnderWay number ((session.asks host reply).map Effect.deed ++ [.finish]) during)) ∧
      ∀ fault, host.cursor = .error fault →
        session.asks host reply = [] ∧ workspace.NoTrace number session taken := by
  constructor
  · intro moves
    have latched := (reached.sound number session present).latched
    obtain ⟨after, there, -, balance⟩ := run_balance present latched moves
    have timed := (reached.run moves).timed number after there
    exact ⟨after, there, balance, timed.accepts⟩
  · intro reply takes taken
    constructor
    · intro during unfinished
      obtain ⟨queue, begun⟩ := perform_begins present takes hosted
      let rest : Session := { session with intake := { session.intake with queue } }
      have there := sessions_setSession present (rest.beginReply host reply)
      have latched := rest.beginReply_latched host reply
      have locked := latched.trans (rest.beginReply_applying host reply)
      have idle := rest.beginReply_phase host reply
      have agenda := rest.beginReply_agenda host reply
      have home : (workspace.setSession number (rest.beginReply host reply)).hosts[
          (rest.beginReply host reply).host]? = some host := by
        obtain ⟨_, _, -, same⟩ := rest.beginReply_effects host reply
        rw [same]
        exact hosted
      rw [← begun] at there home
      exact agenda ▸ run_underWay there home latched locked idle unfinished
    · intro fault untold
      exact ⟨by simp [Session.asks, untold], noTrace reached present takes hosted untold⟩

/-- A character has been typed into an empty document, the host does not tell the cursor any more,
and the answer to the character is about to be taken. -/
def expandedUntold : Workspace :=
  (start .defaults [] [.fresh] (.noSession ⟨['d']⟩)).run
    (.openDocument (.ofBuffer ⟨['d']⟩ .ordinary .empty true) :: .activate ⟨['d']⟩ 0 ['c'] ::
      answeredBy [0] ++ .edit ⟨['d']⟩ (.type 'p') ::
      .adjustHost ⟨['d']⟩ (fun host => { host with rejectsCursor := true }) ::
      readFrom [112, 114, 0])

/-- The expansion is dropped. The session is locked when it has been taken, and awaits no answer; and
with the next step of the worker it is unlocked, and the document reads as before. -/
theorem untold_expansion_dropped :
    let taken := expandedUntold.perform (.act 0 .worker)
    let ended := taken.perform (.act 0 .worker)
    ∃ session host, expandedUntold.Reached ∧ expandedUntold.sessions[0]? = some session ∧
      expandedUntold.hosts[session.host]? = some host ∧
      session.taking? = some (.expanded ['p', 'r']) ∧ host.cursor = .error Host.documentClosed ∧
      taken.Holds 0 (fun dropping => dropping.locked = true ∧ dropping.isAwaitingReply = false ∧
        dropping.completion = { session.completion with phase := .idle }) ∧
      ended.Holds 0 (fun after => after.locked = false) ∧
      (ended.hosts.map fun home => home.buffer.text) = [['p']] := by
  intro taken ended
  have stage : (expandedUntold.sessions[0]?.bind fun session =>
      expandedUntold.hosts[session.host]?.map fun host =>
        (session.taking?, host.manner, host.rejectsCursor)) =
      some (some (.expanded ['p', 'r']), .ordinary, true) := by decide +kernel
  have texts : (expandedUntold.hosts.map fun home => home.buffer.text) = [['p']] := by
    decide +kernel
  have finishing : taken.deeds 0 (.act 0 .worker) = [.finish] := by decide +kernel
  obtain ⟨session, present, stage⟩ := Option.bind_eq_some_iff.mp stage
  obtain ⟨host, hosted, facts⟩ := Option.map_eq_some_iff.mp stage
  simp only [Prod.mk.injEq] at facts
  obtain ⟨takes, manner, rejects⟩ := facts
  have untold : host.cursor = .error Host.documentClosed := by simp [Host.cursor, manner, rejects]
  have reached : expandedUntold.Reached := ⟨_, _, _, _, _, rfl⟩
  obtain ⟨spans, drops⟩ :=
    (lock_spans_reply reached present hosted).2 (.expanded ['p', 'r']) takes
  obtain ⟨dropping, there, underWay⟩ := spans [] List.not_mem_nil
  obtain ⟨-, same, ⟨again, there', completion⟩, -⟩ := drops _ untold
  obtain rfl : dropping = again := Option.some.inj (there.symm.trans there')
  obtain ⟨down, -, kept⟩ := underWay.ends (.act 0 .worker) finishing
  have idle : dropping.isAwaitingReply = false :=
    eq_false_of_ne_true fun awaits => underWay.awaits.mp awaits rfl
  refine ⟨session, host, reached, present, hosted, takes, untold,
    ⟨dropping, there, underWay.locked, idle, completion⟩, ⟨_, down, rfl⟩, ?_⟩
  exact kept.trans ((congrArg _ same).trans texts)

end Workspace

end Typeahead

import Typeahead.Proofs.Session.Desk
import Typeahead.Proofs.Workspace.Run

/-!
# Typing in a workspace

A session attends to a document when it is registered for it, works on its host, and hears of
the changes there. In a run in which the user does nothing but type into that document, each
character typed and each reply taken is an event of the session's desk, and nothing else that
happens makes a difference to the desk: `Attends.run`. So what is to be shown of such runs can
be shown of desks.

A character typed while a reply is being applied is not told to the engine, and the runs in
question have none.
-/

namespace Typeahead

namespace Session

variable {session : Session}

/-- Sending touches nothing that applying replies depends on, but for what was asked last. -/
theorem send_kept (session : Session) (request : Request) :
    (session.send request).1.completion = session.completion.sent request ∧
      (session.send request).1.worker = session.worker ∧
      (session.send request).1.host = session.host ∧
      (session.send request).1.locked = session.locked := by
  unfold send
  split <;> exact ⟨rfl, rfl, rfl, rfl⟩

/-- A session that is not locked hears of a character put in, and sends it. -/
theorem handleChange_typed (free : session.locked = false) {character : Char}
    (usable : Request.reservedBelow ≤ character.toNat) (offset : Nat) :
    (session.handleChange ⟨offset, 0, [character]⟩).1 = (session.send (.advance character)).1 := by
  have asked : requestsFor ⟨offset, 0, [character]⟩ = [.advance character] := by
    rw [requestsFor_eq_owed]
    simp [owed, usable]
  simp only [handleChange, free, asked, Bool.false_eq_true, if_false]
  unfold sendAll
  split
  · next refused => rw [refused]
  · next accepted => rw [accepted, sendAll]

end Session

namespace Workspace

/-- A session registered for a document, at work on the document's host, which is listening and does
what it is asked to. -/
structure Attends (workspace : Workspace) (number : Nat) (document : DocumentId)
    (session : Session) (host : Host) : Prop where
  present : workspace.sessions[number]? = some session
  registered : workspace.registered? document = some number
  latest : workspace.hostOf? document = some session.host
  hosted : workspace.hosts[session.host]? = some host
  listening : host.listening = true
  obliges : host.Obliges
  locked : session.locked = session.worker.isApplying
  upright : ∀ operation ∈ session.worker.pending, operation.Upright

/-- Whether the session of a number is in the middle of a reply. -/
def applying (workspace : Workspace) (number : Nat) : Bool :=
  (workspace.sessions[number]?.map fun session => session.worker.isApplying).getD false

/-- Whether a move is one of a user who only types, or has nothing to do with the user: a character
is typed into the document, and not while a reply is being applied; something arrives for the
session; one of its workers takes a step; or time passes. -/
def Move.isTyping (number : Nat) (document : DocumentId) (applying : Bool) : Move → Bool
  | .edit edited (.type character) =>
    edited == document && Request.reservedBelow ≤ character.toNat && !applying
  | .deliver connection _ => connection == number
  | .arrive other _ => other == number
  | .endInbound other => other == number
  | .act other _ => other == number
  | .pass _ => true
  | _ => false

/-- Whether the user only types in a run. -/
def onlyTypes (number : Nat) (document : DocumentId) : Workspace → List Move → Bool
  | _, [] => true
  | workspace, move :: rest =>
    move.isTyping number document (workspace.applying number) &&
      onlyTypes number document (workspace.perform move) rest

/-- The events that a move is to the desk of a session. -/
def deskEvents (number : Nat) (workspace : Workspace) : Move → List Desk.Event
  | .edit _ (.type character) => [.typed character]
  | .act _ .worker => (workspace.sessions[number]?.map Session.answering).getD []
  | _ => []

/-- The events that a run is to the desk of a session, in order. -/
def deskLog (number : Nat) : Workspace → List Move → List Desk.Event
  | _, [] => []
  | workspace, move :: rest =>
    workspace.deskEvents number move ++ deskLog number (workspace.perform move) rest

variable {workspace next : Workspace} {number : Nat} {document : DocumentId} {session : Session}
  {host : Host}

/-- Which host is the latest of a document depends on the hosts' documents alone. -/
theorem hostOf?_eq (same : next.hosts.map Host.document = workspace.hosts.map Host.document)
    (document : DocumentId) : next.hostOf? document = workspace.hostOf? document := by
  have count : next.hosts.length = workspace.hosts.length := by
    simpa using congrArg List.length same
  have names : ∀ place : Nat,
      next.hosts[place]?.map Host.document = workspace.hosts[place]?.map Host.document := by
    intro place
    rw [← List.getElem?_map, ← List.getElem?_map, same]
  simp only [hostOf?, count, names]

/-- The session registered for the document of a host that listens is told of the host's changes. -/
theorem report_tells (present : workspace.sessions[number]? = some session)
    (registered : workspace.registered? host.document = some number)
    (listening : host.listening = true) (change : Change) :
    (workspace.report host (some change)).sessions[number]? =
      some (session.handleChange change).1 := by
  simp only [report, listening, if_true, documentChanged, registered, tellSession, present]
  exact sessions_setSession present _

/-- Connecting a document leaves the hosts as they are. -/
theorem activate_hosts (workspace : Workspace) (document : DocumentId) (host : Nat)
    (language : Text) :
    (workspace.activate document host language).1.hosts = workspace.hosts := by
  unfold activate connect
  split
  · rfl
  · cases workspace.lines with
    | nil => rfl
    | cons line lines =>
      simp only
      split
      · rfl
      · cases workspace.registered? document <;> rfl

/-- A session just connected to the latest host of its document attends, if that host listens and
does what it is asked to. Its first request is on its way, and no reply is being applied. -/
theorem attends_connected {language : Text} {line : Line} {lines : List Line} {place : Nat}
    (numbered : workspace.Numbered) (usable : Request.start? language = .ok (.start language))
    (given : workspace.lines = line :: lines) (latest : workspace.hostOf? document = some place)
    (hosted : workspace.hosts[place]? = some host) (listening : host.listening = true)
    (obliges : host.Obliges) :
    ∃ session, (workspace.activate document place language).1.Attends workspace.sessions.length
        document session host ∧
      session.worker.isApplying = false ∧ session.completion.lastRequest = some .start := by
  have connected := activate_connected document place usable given
  have hosts := workspace.activate_hosts document place language
  refine ⟨workspace.opened document place language line,
    ⟨connected.added (numbered.fresh document), ?_, ?_, ?_,
    listening, obliges, rfl, nofun⟩, rfl, rfl⟩
  · rw [connected.register, if_pos rfl]
  · exact (hostOf?_eq (congrArg (List.map Host.document) hosts) document).trans latest
  · rw [hosts]
    exact hosted

namespace Attends

/-- The latest host of a document is one of that document. -/
theorem named (attends : workspace.Attends number document session host) :
    host.document = document := by
  have found := List.find?_some attends.latest
  simpa [attends.hosted] using found

/-- Whether the session is in the middle of a reply is for its worker to tell. -/
theorem busy (attends : workspace.Attends number document session host) :
    workspace.applying number = session.worker.isApplying := by
  simp [applying, attends.present]

/-- A session attends still when it goes on in its place, with its host in its own. -/
theorem goOn (attends : workspace.Attends number document session host) {after : Session}
    {hostAfter : Host} (register : next.registered = workspace.registered)
    (present : next.sessions[number]? = some after)
    (hosts : next.hosts = workspace.hosts.set session.host hostAfter)
    (place : after.host = session.host) (ways : host.SameWays hostAfter)
    (locked : after.locked = after.worker.isApplying)
    (upright : ∀ operation ∈ after.worker.pending, operation.Upright) :
    next.Attends number document after hostAfter := by
  have inside := (List.getElem?_eq_some_iff.mp attends.hosted).1
  have documents : next.hosts.map Host.document = workspace.hosts.map Host.document := by
    have kept : (workspace.hosts.map Host.document)[session.host]? = some hostAfter.document := by
      simp [attends.hosted, ways.document]
    obtain ⟨_, name⟩ := List.getElem?_eq_some_iff.mp kept
    rw [hosts, List.map_set, ← name, List.set_getElem_self]
  refine ⟨present, ?_, ?_, ?_, ways.listening.trans attends.listening,
    attends.obliges.sameWays ways, locked, upright⟩
  · rw [registered?, register]
    exact attends.registered
  · rw [hostOf?_eq documents, place]
    exact attends.latest
  · rw [hosts, place]
    simp [inside]

/-- What happens to the session outside its worker does not matter to the desk. -/
theorem aside (attends : workspace.Attends number document session host) {after : Session}
    (register : next.registered = workspace.registered) (hosts : next.hosts = workspace.hosts)
    (present : next.sessions[number]? = some after) (place : after.host = session.host)
    (worker : after.worker = session.worker) (locked : after.locked = session.locked)
    (completion : after.completion = session.completion) :
    next.Attends number document after host ∧ after.desk host = session.desk host := by
  obtain ⟨inside, here⟩ := List.getElem?_eq_some_iff.mp attends.hosted
  have same : next.hosts = workspace.hosts.set session.host host := by
    rw [hosts, ← here, List.set_getElem_self]
  refine ⟨attends.goOn register present same place ⟨rfl, rfl, rfl, rfl, rfl⟩ ?_ ?_, ?_⟩
  · rw [locked, worker]
    exact attends.locked
  · rw [worker]
    exact attends.upright
  · simp only [Session.desk, completion, worker]

/-- A change of the inbound side, or of the outbound side, is aside. -/
theorem setSession (attends : workspace.Attends number document session host) {after : Session}
    (place : after.host = session.host) (worker : after.worker = session.worker)
    (locked : after.locked = session.locked) (completion : after.completion = session.completion) :
    (workspace.setSession number after).Attends number document after host ∧
      after.desk host = session.desk host := by
  exact attends.aside rfl rfl (sessions_setSession attends.present after) place worker locked
    completion

/-- Typing a character is typing it on the desk. -/
theorem typed (attends : workspace.Attends number document session host) {character : Char}
    (usable : Request.reservedBelow ≤ character.toNat)
    (resting : session.worker.isApplying = false) :
    ∃ after hostAfter,
      (workspace.perform (.edit document (.type character))).Attends number document after
        hostAfter ∧
      after.desk hostAfter = (session.desk host).run [.typed character] := by
  obtain ⟨offset, change⟩ : ∃ offset, host.buffer.change? (.type character) =
      some ⟨offset, 0, [character]⟩ := by
    simp [Buffer.change?, Buffer.perform_type, Buffer.clamp]
  let hostAfter := { host with buffer := host.buffer.after (.type character) }
  have performed : host.edit (.type character) =
      .ok (hostAfter, some ⟨offset, 0, [character]⟩) := by
    have upright : Buffer.Operation.Upright (.type character) := trivial
    rw [Host.edit, host.buffer.perform_upright upright, change]
    rfl
  have edited : workspace.perform (.edit document (.type character)) =
      (workspace.setHost session.host hostAfter).report hostAfter
        (some ⟨offset, 0, [character]⟩) := by
    simp [perform, Workspace.edit, attends.latest, attends.hosted, performed, Except.map]
  have named : hostAfter.document = document := attends.named
  have present : (workspace.setHost session.host hostAfter).sessions[number]? = some session :=
    attends.present
  have registered : (workspace.setHost session.host hostAfter).registered? hostAfter.document =
      some number :=
    named ▸ attends.registered
  have told := report_tells present registered attends.listening ⟨offset, 0, [character]⟩
  rw [Session.handleChange_typed (attends.locked.trans resting) usable] at told
  obtain ⟨completion, worker, place, locked⟩ := session.send_kept (.advance character)
  have nothing : session.worker.pending = [] := by
    revert resting
    cases session.worker <;> simp [Worker.isApplying, Worker.pending]
  rw [edited]
  refine ⟨_, hostAfter, attends.goOn (report_only _ _ _).keepsRegister.register told
    (report_only _ _ _).hosts place ⟨rfl, rfl, rfl, rfl, rfl⟩ ?_ ?_, ?_⟩
  · rw [locked, worker]
    exact attends.locked
  · rw [worker]
    exact attends.upright
  · simp only [Session.desk, completion, worker, nothing]
    rfl

/-- A step of the worker is the reply that it takes, if it takes one. An edit that the worker makes
is reported to the session while it is locked. -/
theorem worked (attends : workspace.Attends number document session host) {after : Session}
    {hostAfter : Host} {change : Option Change}
    (stepped : session.stepWorker host workspace.clock = some (after, hostAfter, change)) :
    (((workspace.setSession number after).setHost session.host hostAfter).report hostAfter
        change).Attends number document after hostAfter ∧
      after.desk hostAfter = (session.desk host).run session.answering := by
  have worked := Session.stepWorker_worked attends.obliges attends.locked attends.upright stepped
  have placed : ((workspace.setSession number after).setHost session.host hostAfter).sessions[number]? =
      some after := sessions_setSession attends.present after
  refine ⟨attends.goOn (report_only _ _ _).keepsRegister.register ?_ (report_only _ _ _).hosts worked.place
    worked.ways worked.locked worked.upright, worked.desk⟩
  cases change with
  | none => exact placed
  | some change =>
    have named : hostAfter.document = document := worked.ways.document.trans attends.named
    have told := report_tells placed (named ▸ attends.registered)
      (worked.ways.listening.trans attends.listening) change
    have busy : after.locked = true :=
      worked.locked.trans (Session.stepWorker_applying stepped).2
    simpa [Session.handleChange, busy] using told

/-- A worker that takes no step has no reply to take. -/
theorem answering_of_waiting (attends : workspace.Attends number document session host)
    (waits : workspace.act number .worker = none) : session.answering = [] := by
  have waiting : session.stepWorker host workspace.clock = none := by
    apply Option.eq_none_iff_forall_ne_some.mpr
    intro worked stepped
    simp [act, attends.present, attends.hosted, stepped] at waits
  have idle : session.taking? = none := by
    unfold Session.taking?
    split
    · next deadline stage =>
      simp only [Session.stepWorker, stage, Option.map_eq_none_iff, Session.stepParked] at waiting
      split at waiting
      · cases waiting
      · next active =>
        rw [if_neg active]
        cases queue : session.intake.queue with
        | nil => rfl
        | cons reply rest => simp [queue] at waiting
    · rfl
  simp [Session.answering, idle]

/-- A step of any of the session's workers. -/
theorem acted (attends : workspace.Attends number document session host) (actor : Actor) :
    ∃ after hostAfter,
      (workspace.perform (.act number actor)).Attends number document after hostAfter ∧
      after.desk hostAfter = (session.desk host).run (workspace.deskEvents number (.act number actor)) := by
  cases outcome : workspace.act number actor with
  | none =>
    have stays : workspace.perform (.act number actor) = workspace := by simp [perform, outcome]
    rw [stays]
    refine ⟨session, host, attends, ?_⟩
    cases actor with
    | worker =>
      simp [deskEvents, attends.present, attends.answering_of_waiting outcome, Desk.run]
    | _ => rfl
  | some next =>
    have goes : workspace.perform (.act number actor) = next := by simp [perform, outcome]
    rw [goes]
    have step := act_acted_by attends.present outcome
    cases step with
    | intake stepped =>
      obtain ⟨intake, -, rfl⟩ := Option.map_eq_some_iff.mp stepped
      exact ⟨_, host, attends.setSession rfl rfl rfl rfl⟩
    | outlet stepped =>
      obtain ⟨outlet, -, rfl⟩ := Option.map_eq_some_iff.mp stepped
      exact ⟨_, host, attends.setSession rfl rfl rfl rfl⟩
    | @worker acted hostAfter after change hosted stepped =>
      obtain rfl : acted = host := Option.some.inj (hosted.symm.trans attends.hosted)
      refine ⟨after, hostAfter, ?_⟩
      simpa [deskEvents, attends.present] using attends.worked stepped

/-- A change of the inbound side is aside. -/
theorem withIntake (attends : workspace.Attends number document session host)
    (change : Intake → Intake) :
    ∃ after hostAfter, (workspace.withIntake number change).Attends number document after hostAfter ∧
      after.desk hostAfter = session.desk host := by
  simp only [Workspace.withIntake, attends.present]
  exact ⟨_, host, attends.setSession rfl rfl rfl rfl⟩

/-- Each move of a user who only types is to the desk what it is said to be. -/
theorem perform (attends : workspace.Attends number document session host) (move : Move)
    (typing : move.isTyping number document (workspace.applying number) = true) :
    ∃ after hostAfter, (workspace.perform move).Attends number document after hostAfter ∧
      after.desk hostAfter = (session.desk host).run (workspace.deskEvents number move) := by
  unfold Move.isTyping at typing
  split at typing
  · next edited character =>
    simp only [Bool.and_eq_true, beq_iff_eq, decide_eq_true_eq, Bool.not_eq_true',
      attends.busy] at typing
    obtain ⟨⟨rfl, usable⟩, resting⟩ := typing
    exact attends.typed usable resting
  · next connection content =>
    obtain rfl := beq_iff_eq.mp typing
    simp only [Workspace.perform, Workspace.deliver, attends.present]
    split
    · exact ⟨session, host, attends, rfl⟩
    · exact ⟨_, host, attends.setSession rfl rfl rfl rfl⟩
  · next other arrivals =>
    obtain rfl := beq_iff_eq.mp typing
    exact attends.withIntake (·.receive arrivals)
  · obtain rfl := beq_iff_eq.mp typing
    exact attends.withIntake Intake.close
  · next other actor =>
    obtain rfl := beq_iff_eq.mp typing
    exact attends.acted actor
  · exact ⟨session, host, attends.aside rfl rfl attends.present rfl rfl rfl rfl⟩
  · cases typing

/-- A run in which the user only types is to the desk what its moves are. -/
theorem run (attends : workspace.Attends number document session host) (moves : List Move)
    (typing : workspace.onlyTypes number document moves = true) :
    ∃ after hostAfter, (workspace.run moves).Attends number document after hostAfter ∧
      after.desk hostAfter = (session.desk host).run (workspace.deskLog number moves) := by
  induction moves generalizing workspace session host with
  | nil => exact ⟨session, host, attends, rfl⟩
  | cons move rest inductionHypothesis =>
    obtain ⟨first, later⟩ := Bool.and_eq_true_iff.mp typing
    obtain ⟨middle, hostMiddle, attended, moved⟩ := attends.perform move first
    obtain ⟨after, hostAfter, last, done⟩ := inductionHypothesis attended later
    refine ⟨after, hostAfter, last, ?_⟩
    rw [done, moved]
    exact (List.foldl_append ..).symm

end Attends

/-- The buffer of a session that is not in the middle of a reply is that of its desk. -/
theorem desk_of_resting (resting : session.worker.isApplying = false) :
    session.desk host = ⟨session.completion.expireWait, host.buffer⟩ := by
  unfold Session.desk
  revert resting
  cases session.worker <;> simp [Worker.isApplying, Worker.pending, Buffer.afterAll]

end Workspace

end Typeahead

import Typeahead.Proofs.Session.Stream
import Typeahead.Proofs.Workspace.Run

/-!
# What an engine gets to read

The bytes that a session writes are set against what the session was called for in the
course of a run: the requests sent explicitly, and the changes reported to it, each with
whether the worker was applying a reply at that moment. Every move that leaves the session
its place and its connection adds the requests of its calls to the bytes (`Serves.perform`),
and so does a run of such moves, from the selection of the language on
(`engine_reads_calls`). A change made by the worker itself is reported while it applies a
reply, so that its call adds nothing (`owed_own_steps`).
-/

namespace Typeahead

/-- Something that a session is called for. -/
inductive Call where
  /-- A request is to be sent. -/
  | send (request : Request)
  /-- A change is reported, while the worker applies a reply or not. -/
  | hear (change : Change) (applying : Bool)

/-- The requests that a call amounts to. A change reported while a reply is being applied amounts to
none, whoever made it. -/
def Call.requests : Call → List Request
  | .send request => [request]
  | .hear _ true => []
  | .hear change false => Session.owed change

/-- The requests of several calls, in order. -/
def Call.owed (calls : List Call) : List Request :=
  calls.flatMap Call.requests

/-- The change that a host reports, if it was edited and is listening. -/
def Host.reported? (host : Host) (change : Option Change) : Option (DocumentId × Change) :=
  if host.listening then change.map (host.document, ·) else none

namespace Workspace

/-- The change that a move reports, and its document. -/
def reported? (workspace : Workspace) : Move → Option (DocumentId × Change)
  | .report document change => some (document, change)
  | .edit document operation =>
    match (workspace.hostOf? document).bind (workspace.hosts[·]?) with
    | none => none
    | some host =>
      match host.edit operation with
      | .error _ => none
      | .ok (after, change) => after.reported? change
  | .act number .worker =>
    match workspace.sessions[number]? with
    | none => none
    | some session =>
      match workspace.hosts[session.host]? with
      | none => none
      | some host =>
        match session.stepWorker host workspace.clock with
        | none => none
        | some (_, after, change) => after.reported? change
  | _ => none

/-- The calls of a session when a change is reported. -/
def callsOf (workspace : Workspace) (number : Nat) (session : Session)
    (reported : Option (DocumentId × Change)) : List Call :=
  match reported with
  | none => []
  | some (document, change) =>
    if workspace.registered? document = some number then [.hear change session.worker.isApplying]
    else []

/-- What a move calls a session for. -/
def calls (number : Nat) (workspace : Workspace) (move : Move) : List Call :=
  match workspace.sessions[number]? with
  | none => []
  | some session =>
    match move with
    | .send document request =>
      if workspace.registered? document = some number then [.send request] else []
    | .sendBy other request => if other = number then [.send request] else []
    | .restoreCursor other => if other = number then session.restoring.map .send else []
    | .tell other change => if other = number then [.hear change session.worker.isApplying] else []
    | move => workspace.callsOf number session (workspace.reported? move)

/-- What a run calls a session for, in order. -/
def log (number : Nat) : Workspace → List Move → List Call
  | _, [] => []
  | workspace, move :: rest => workspace.calls number move ++ log number (workspace.perform move) rest

/-- A session registered for one document, with these bytes written or queued. -/
structure Serves (workspace : Workspace) (number : Nat) (document : DocumentId)
    (session : Session) (bytes : Bytes) : Prop where
  present : workspace.sessions[number]? = some session
  registered : workspace.registered? document = some number
  alone : ∀ other, workspace.registered? other = some number → other = document
  carries : session.Carries bytes

/-- The session of a number serves and has, besides these bytes, written or queued what these calls
amount to. -/
def ServesCalls (workspace : Workspace) (number : Nat) (document : DocumentId) (bytes : Bytes)
    (calls : List Call) : Prop :=
  ∃ session, workspace.Serves number document session (bytes ++ Request.encodeAll (Call.owed calls))

variable {workspace next : Workspace} {number : Nat} {document : DocumentId} {session : Session}
  {bytes : Bytes}

/-- The number of a session that serves is that of a session. -/
theorem Serves.inside (serves : workspace.Serves number document session bytes) :
    number < workspace.sessions.length :=
  (List.getElem?_eq_some_iff.mp serves.present).1

/-- Without a call nothing comes to the bytes. -/
theorem Serves.uncalled (serves : workspace.Serves number document session bytes) :
    workspace.ServesCalls number document bytes [] :=
  ⟨session, by simpa [Call.owed, Request.encodeAll] using serves⟩

/-- A session that goes on in its place, with the register kept, still serves. -/
theorem Serves.goOn (serves : workspace.Serves number document session bytes)
    (keeps : KeepsRegister workspace next) {after : Session} {more : Bytes}
    (present : next.sessions[number]? = some after) (carries : after.Carries more) :
    next.Serves number document after more := by
  have known : ∀ other, next.registered? other = workspace.registered? other := by
    intro other
    rw [registered?, registered?, keeps.register]
  refine ⟨present, (known document).trans serves.registered, ?_, carries⟩
  intro other registered
  exact serves.alone other ((known other).symm.trans registered)

/-- What happens outside the sessions and the register does not matter to a session. -/
theorem Serves.elsewhere (serves : workspace.Serves number document session bytes)
    (sessions : next.sessions = workspace.sessions)
    (register : next.registered = workspace.registered) :
    next.Serves number document session bytes :=
  serves.goOn ⟨register, congrArg List.length sessions⟩
    ((congrArg (·[number]?) sessions).trans serves.present) serves.carries

/-- A host in its place does not matter to a session. -/
theorem Serves.setHost (serves : workspace.Serves number document session bytes) (place : Nat)
    (host : Host) : (workspace.setHost place host).Serves number document session bytes :=
  serves.elsewhere rfl rfl

/-- Where a change is routed depends on the register alone. -/
theorem callsOf_eq (register : next.registered = workspace.registered)
    (reported : Option (DocumentId × Change)) :
    next.callsOf number session reported = workspace.callsOf number session reported := by
  unfold callsOf registered?
  rw [register]

/-- The session of one number in the place of that number. -/
theorem Serves.setSession_self (serves : workspace.Serves number document session bytes)
    {after : Session} {more : Bytes} (carries : after.Carries more) :
    (workspace.setSession number after).Serves number document after more :=
  serves.goOn (setSession_only _ _ _).keepsRegister
    (sessions_setSession serves.present after) carries

/-- A session of another number does not touch this one. -/
theorem Serves.setSession_other (serves : workspace.Serves number document session bytes)
    {other : Nat} (different : other ≠ number) (after : Session) :
    (workspace.setSession other after).Serves number document session bytes :=
  serves.goOn (setSession_only _ _ _).keepsRegister
    ((sessions_setSession_other _ different after).trans serves.present) serves.carries

/-- A session in whose place is one that carries the same does not matter to the bytes, whichever
session it is. -/
theorem Serves.setSession (serves : workspace.Serves number document session bytes) {other : Nat}
    {acting after : Session} (present : workspace.sessions[other]? = some acting)
    (keeps : ∀ bytes, acting.Carries bytes → after.Carries bytes) :
    ∃ session, (workspace.setSession other after).Serves number document session bytes := by
  by_cases same : other = number
  · subst same
    obtain rfl : acting = session := Option.some.inj (present.symm.trans serves.present)
    exact ⟨after, serves.setSession_self (keeps bytes serves.carries)⟩
  · exact ⟨session, serves.setSession_other same after⟩

/-- A session told of a change writes or queues what the call amounts to, and another one
nothing. -/
theorem Serves.tellSession (serves : workspace.Serves number document session bytes) (other : Nat)
    (change : Change) :
    (workspace.tellSession other change).1.ServesCalls number document bytes
      (if other = number then [.hear change session.worker.isApplying] else []) := by
  by_cases same : other = number
  · subst same
    obtain ⟨-, carries, -⟩ := serves.carries.handleChange change
    have served := serves.setSession_self carries
    refine ⟨(session.handleChange change).1, ?_⟩
    cases applying : session.worker.isApplying <;>
      simpa [Workspace.tellSession, serves.present, Call.owed, Call.requests, applying] using served
  · rw [if_neg same]
    unfold Workspace.tellSession
    split
    · exact serves.uncalled
    · exact (serves.setSession_other same _).uncalled

/-- A change routed to a session is a call of that session. -/
theorem Serves.documentChanged (serves : workspace.Serves number document session bytes)
    (changed : DocumentId) (change : Change) :
    (workspace.documentChanged changed change).1.ServesCalls number document bytes
      (workspace.callsOf number session (some (changed, change))) := by
  unfold Workspace.documentChanged
  cases registered : workspace.registered? changed with
  | none => simpa [callsOf, registered] using serves.uncalled
  | some other => simpa [callsOf, registered] using serves.tellSession other change

/-- An edit that a host reports is a call of the session of its document. -/
theorem Serves.report (serves : workspace.Serves number document session bytes) (host : Host)
    (change : Option Change) :
    (workspace.report host change).ServesCalls number document bytes
      (workspace.callsOf number session (host.reported? change)) := by
  cases change with
  | none => simpa [Workspace.report, Host.reported?, callsOf] using serves.uncalled
  | some change =>
    cases listening : host.listening with
    | false => simpa [Workspace.report, Host.reported?, listening, callsOf] using serves.uncalled
    | true =>
      simpa [Workspace.report, Host.reported?, listening] using
        serves.documentChanged host.document change

/-- A request sent by a session is a call of that session. -/
theorem Serves.sendBy (serves : workspace.Serves number document session bytes) (other : Nat)
    (request : Request) :
    (workspace.sendBy other request).1.ServesCalls number document bytes
      (if other = number then [.send request] else []) := by
  by_cases same : other = number
  · subst same
    have served := serves.setSession_self (serves.carries.send request).2.1
    refine ⟨(session.send request).1, ?_⟩
    simpa [Workspace.sendBy, serves.present, Call.owed, Call.requests, Request.encodeAll] using served
  · rw [if_neg same]
    unfold Workspace.sendBy
    split
    · exact serves.uncalled
    · exact (serves.setSession_other same _).uncalled

/-- A cursor handle given back is a request sent. -/
theorem Serves.restoreCursor (serves : workspace.Serves number document session bytes)
    (other : Nat) :
    (workspace.restoreCursor other).1.ServesCalls number document bytes
      (if other = number then session.restoring.map .send else []) := by
  by_cases same : other = number
  · subst same
    have served := serves.setSession_self serves.carries.restoreCursor
    refine ⟨session.restoreCursor.1, ?_⟩
    simpa [Workspace.restoreCursor, serves.present, Call.owed, List.flatMap_map, Call.requests]
      using served
  · rw [if_neg same]
    unfold Workspace.restoreCursor
    split
    · exact serves.uncalled
    · exact (serves.setSession_other same _).uncalled

/-- The inbound side of any session changes without a byte. -/
theorem Serves.withIntake (serves : workspace.Serves number document session bytes) (other : Nat)
    (change : Intake → Intake) :
    (workspace.withIntake other change).ServesCalls number document bytes [] := by
  unfold Workspace.withIntake
  split
  · exact serves.uncalled
  · next acting present =>
    obtain ⟨after, served⟩ := serves.setSession present fun _ carries => carries.withIntake _
    exact served.uncalled

/-- What the engine writes calls no session for anything. -/
theorem Serves.deliver (serves : workspace.Serves number document session bytes)
    (connection : Nat) (content : Bytes) :
    (workspace.deliver connection content).1.ServesCalls number document bytes [] := by
  unfold Workspace.deliver
  split
  · next acting present =>
    split
    · exact serves.uncalled
    · obtain ⟨after, served⟩ := serves.setSession present fun _ carries => carries.withIntake _
      exact served.uncalled
  · split
    · exact serves.uncalled
    · split
      · exact Serves.uncalled (serves.elsewhere rfl rfl)
      · exact serves.uncalled

/-- The end of another connection leaves this session alone. -/
theorem Serves.hangUp (serves : workspace.Serves number document session bytes)
    {connection : Nat} (different : connection ≠ number) :
    (workspace.hangUp connection).ServesCalls number document bytes [] := by
  unfold Workspace.hangUp
  split
  · exact (serves.setSession_other different _).uncalled
  · exact Serves.uncalled (serves.elsewhere rfl rfl)

/-- An operation of the user on any document is a call of the session of that document's host. -/
theorem Serves.edit (serves : workspace.Serves number document session bytes)
    (edited : DocumentId) (operation : Buffer.Operation) :
    (workspace.perform (.edit edited operation)).ServesCalls number document bytes
      (workspace.callsOf number session (workspace.reported? (.edit edited operation))) := by
  cases hosting : workspace.hostOf? edited with
  | none => simpa [perform, Workspace.edit, hosting, reported?, callsOf] using serves.uncalled
  | some place =>
    cases hosted : workspace.hosts[place]? with
    | none =>
      simpa [perform, Workspace.edit, hosting, hosted, reported?, callsOf] using serves.uncalled
    | some host =>
      cases outcome : host.edit operation with
      | error fault =>
        simpa [perform, Workspace.edit, hosting, hosted, outcome, Except.map, reported?, callsOf]
          using serves.uncalled
      | ok result =>
        obtain ⟨after, change⟩ := result
        have reported := (serves.setHost place after).report after change
        rw [callsOf_eq (setHost_keeps_register _ _ _).register] at reported
        simpa [perform, Workspace.edit, hosting, hosted, outcome, Except.map, reported?]
          using reported

/-- An actor that has to wait reports nothing. -/
theorem reported?_of_waiting {actor : Actor} (waits : workspace.act number actor = none) :
    workspace.reported? (.act number actor) = none := by
  cases actor with
  | intake | outlet => rfl
  | worker =>
    cases present : workspace.sessions[number]? with
    | none => simp [reported?, present]
    | some session =>
      cases hosted : workspace.hosts[session.host]? with
      | none => simp [reported?, present, hosted]
      | some host =>
        cases stepped : session.stepWorker host workspace.clock with
        | none => simp [reported?, present, hosted, stepped]
        | some result => simp [act, present, hosted, stepped] at waits

/-- A step of an applying worker reports the edit that it makes. -/
theorem reported?_of_worker {host hostAfter : Host} {after : Session} {change : Option Change}
    (present : workspace.sessions[number]? = some session)
    (hosted : workspace.hosts[session.host]? = some host)
    (stepped : session.stepWorker host workspace.clock = some (after, hostAfter, change)) :
    workspace.reported? (.act number .worker) = hostAfter.reported? change := by
  simp [reported?, present, hosted, stepped]

/-- The report of a session's own edit finds the session applying a reply, before and after the
edit. -/
theorem callsOf_own {host hostAfter : Host} {after : Session} {change : Option Change}
    (stepped : session.stepWorker host workspace.clock = some (after, hostAfter, change)) :
    workspace.callsOf number after (hostAfter.reported? change) =
      workspace.callsOf number session (hostAfter.reported? change) := by
  cases change with
  | none => simp [Host.reported?, callsOf]
  | some change =>
    obtain ⟨before, still⟩ := Session.stepWorker_applying stepped
    cases reported : hostAfter.reported? (some change) with
    | none => rfl
    | some report => simp only [callsOf, before, still]

/-- A step of an actor calls a session for what the step reports. -/
theorem Serves.act (serves : workspace.Serves number document session bytes) (other : Nat)
    (actor : Actor) :
    (workspace.perform (.act other actor)).ServesCalls number document bytes
      (workspace.callsOf number session (workspace.reported? (.act other actor))) := by
  cases acted : workspace.act other actor with
  | none => simpa [perform, acted, reported?_of_waiting acted, callsOf] using serves.uncalled
  | some next =>
    obtain ⟨acting, present, step⟩ := act_acted acted
    have performed : workspace.perform (.act other actor) = next := by simp [perform, acted]
    rw [performed]
    cases step with
    | intake stepped =>
      obtain ⟨after, served⟩ := serves.setSession present fun _ carries => carries.stepIntake stepped
      simpa [reported?, callsOf] using served.uncalled
    | outlet stepped =>
      obtain ⟨after, served⟩ := serves.setSession present fun _ carries => carries.stepOutlet stepped
      simpa [reported?, callsOf] using served.uncalled
    | @worker host hostAfter after change hosted stepped =>
      have register : ((workspace.setSession other after).setHost acting.host hostAfter).registered =
          workspace.registered := rfl
      rw [reported?_of_worker present hosted stepped, ← callsOf_eq register]
      by_cases same : other = number
      · subst same
        obtain rfl : acting = session := Option.some.inj (present.symm.trans serves.present)
        have served := serves.setSession_self (serves.carries.stepWorker stepped)
        rw [callsOf_eq register, ← callsOf_own stepped, ← callsOf_eq register]
        exact (served.setHost acting.host hostAfter).report hostAfter change
      · have served := serves.setSession_other same after
        exact (served.setHost acting.host hostAfter).report hostAfter change

/-- The moves that leave a session its place in the register and its connection. -/
def Move.Spares (number : Nat) (document : DocumentId) : Move → Prop
  | .activate other _ _ => other ≠ document
  | .forget other => other ≠ document
  | .cancel other => other ≠ number
  | .hangUp other => other ≠ number
  | _ => True

/-- Connecting another document leaves this session alone: neither the session that had the place
before nor the new one is this one. -/
theorem Serves.activate (serves : workspace.Serves number document session bytes)
    {other : DocumentId} (different : other ≠ document) (host : Nat) (language : Text) :
    (workspace.activate other host language).1.Serves number document session bytes := by
  rcases activate_cases workspace other host language with
    ⟨register, sessions⟩ | ⟨line, lines, usable, given⟩
  · exact serves.elsewhere sessions register
  · have connected := activate_connected other host usable given
    have elsewhere : workspace.registered? other ≠ some number := by
      intro registered
      exact different (serves.alone other registered)
    have present := (connected.kept number serves.inside elsewhere).trans serves.present
    have registered := connected.register document
    rw [if_neg (Ne.symm different)] at registered
    refine ⟨present, registered.trans serves.registered, ?_, serves.carries⟩
    intro asked found
    have known := (connected.register asked).symm.trans found
    split at known
    · have inside := serves.inside
      cases known
      omega
    · exact serves.alone asked known

/-- Taking another document out of the register leaves this session alone. -/
theorem Serves.forget (serves : workspace.Serves number document session bytes)
    {other : DocumentId} (different : other ≠ document) :
    (workspace.forget other).Serves number document session bytes := by
  have kept := registered?_forget workspace other document
  rw [if_neg (Ne.symm different)] at kept
  refine ⟨serves.present, kept.trans serves.registered, ?_, serves.carries⟩
  intro asked found
  rw [registered?_forget] at found
  split at found
  · cases found
  · exact serves.alone asked found

/-- Telling another session to stop leaves this one alone. -/
theorem Serves.cancel (serves : workspace.Serves number document session bytes)
    {other : Nat} (different : other ≠ number) :
    (workspace.cancel other).Serves number document session bytes :=
  serves.goOn (cancel_only _ _).keepsRegister
    (by simp [Workspace.cancel, different, serves.present]) serves.carries

/-- Every move that spares a session adds to its bytes what it calls the session for. -/
theorem Serves.perform (serves : workspace.Serves number document session bytes) (move : Move)
    (spares : move.Spares number document) :
    (workspace.perform move).ServesCalls number document bytes (workspace.calls number move) := by
  simp only [calls, serves.present]
  cases move with
  | openDocument host => exact Serves.uncalled (serves.elsewhere rfl rfl)
  | adjustHost asked adjust =>
    refine Serves.uncalled (serves.elsewhere ?_ ?_) <;>
      (simp only [Workspace.perform, adjustHost]; split <;> rfl)
  | edit asked operation => exact serves.edit asked operation
  | report asked change => exact serves.documentChanged asked change
  | tell other change => exact serves.tellSession other change
  | send asked request =>
    simp only [Workspace.perform, Workspace.send]
    cases registered : workspace.registered? asked with
    | none => exact serves.uncalled
    | some other => simpa using serves.sendBy other request
  | sendBy other request => exact serves.sendBy other request
  | restoreCursor other => exact serves.restoreCursor other
  | deliver connection content => exact serves.deliver connection content
  | arrive other arrivals => exact serves.withIntake other (·.receive arrivals)
  | endInbound other => exact serves.withIntake other Intake.close
  | hangUp connection => exact serves.hangUp spares
  | activate asked host language => exact (serves.activate spares host language).uncalled
  | forget asked => exact (serves.forget spares).uncalled
  | cancel other => exact (serves.cancel spares).uncalled
  | act other actor => exact serves.act other actor
  | pass time => exact Serves.uncalled (serves.elsewhere rfl rfl)

/-- Every run that spares a session adds to its bytes what it calls the session for. -/
theorem Serves.run (serves : workspace.Serves number document session bytes) (moves : List Move)
    (spare : ∀ move ∈ moves, move.Spares number document) :
    (workspace.run moves).ServesCalls number document bytes (workspace.log number moves) := by
  induction moves generalizing workspace session bytes with
  | nil => exact serves.uncalled
  | cons move rest inductionHypothesis =>
    obtain ⟨after, served⟩ := serves.perform move (spare move List.mem_cons_self)
    obtain ⟨last, done⟩ :=
      inductionHypothesis served fun later inside => spare later (List.mem_cons_of_mem _ inside)
    refine ⟨last, ?_⟩
    simpa [Workspace.run, log, Call.owed, Request.encodeAll] using done

/-- A workspace that came about from one without documents. -/
def Reached (workspace : Workspace) : Prop :=
  ∃ settings directory lines refusal moves,
    workspace = (start settings directory lines refusal).run moves

/-- What comes about from a workspace that came about has come about. -/
theorem Reached.run (reached : workspace.Reached) (moves : List Move) :
    (workspace.run moves).Reached := by
  obtain ⟨settings, directory, lines, refusal, earlier, rfl⟩ := reached
  exact ⟨settings, directory, lines, refusal, earlier ++ moves, (run_append _ earlier moves).symm⟩

/-- A document can be connected: the language can be selected, and the connection that the engine
gives next is live. -/
def Ready (workspace : Workspace) (language : Text) : Prop :=
  Request.start? language = .ok (.start language) ∧
    ∃ line lines, workspace.lines = line :: lines ∧ line.live = true

/-- A session that has just been connected serves, with the selection of the language on its
way. Its number was in use nowhere. -/
theorem serves_connected {language : Text} (numbered : workspace.Numbered)
    (ready : workspace.Ready language) (document : DocumentId) (host : Nat) :
    ∃ session, (workspace.activate document host language).1.Serves workspace.sessions.length
      document session (Request.encode (.start language)) := by
  obtain ⟨usable, line, lines, given, live⟩ := ready
  have connected := activate_connected document host usable given
  refine ⟨_, connected.added (numbered.fresh document), ?_, ?_, ?_⟩
  · rw [connected.register, if_pos rfl]
  · intro other registered
    have known := (connected.register other).symm.trans registered
    split at known
    · next same => exact same
    · exact absurd known (numbered.fresh other)
  · have started : (Session.start document language host workspace.settings
        (line.intake workspace.settings) line.sink).Carries [] := by
      refine ⟨rfl, rfl, rfl, ?_, rfl, ?_⟩ <;>
        simp [Session.start, Outlet.start, Line.sink, live, Sink.unlimited, Request.encodeAll]
    exact (started.send (.start language)).2.1

/-- Routing a change to a session that serves queues what the call amounts to, and the number
reported is that of the requests queued. -/
theorem Serves.documentChanged_queues (serves : workspace.Serves number document session bytes)
    (change : Change) :
    let requests := (Call.hear change session.worker.isApplying).requests
    (workspace.documentChanged document change).2 = requests.length ∧
      ∃ told, (workspace.documentChanged document change).1.sessions[number]? = some told ∧
        told.outlet.queue = session.outlet.queue ++ requests := by
  obtain ⟨count, -, queue⟩ := serves.carries.handleChange change
  simp only [Workspace.documentChanged, serves.registered, Workspace.tellSession, serves.present]
  have placed : (workspace.setSession number (session.handleChange change).1).sessions[number]? =
      some (session.handleChange change).1 := sessions_setSession serves.present _
  cases applying : session.worker.isApplying <;>
    exact ⟨by simpa [Call.requests, applying] using count, _, placed,
      by simpa [Call.requests, applying] using queue⟩

/-- A session's own steps amount to no request, although they report every edit made. -/
theorem owed_own_steps (workspace : Workspace) (number : Nat) (actor : Actor) :
    Call.owed (workspace.calls number (.act number actor)) = [] := by
  cases present : workspace.sessions[number]? with
  | none => simp [calls, present, Call.owed]
  | some session =>
    simp only [calls, present]
    cases acted : workspace.act number actor with
    | none => simp [reported?_of_waiting acted, callsOf, Call.owed]
    | some next =>
      have step := act_acted_by present acted
      cases step with
      | intake | outlet => rfl
      | @worker host hostAfter after change hosted stepped =>
        rw [reported?_of_worker present hosted stepped]
        cases change with
        | none => simp [Host.reported?, callsOf, Call.owed]
        | some change =>
          have applying := (Session.stepWorker_applying stepped).1
          cases hostAfter.reported? (some change) with
          | none => rfl
          | some report =>
            simp only [callsOf, applying]
            split <;> rfl

/-- The engine of a session reads the selection of the language and then, in order, what the
session is called for: every request sent explicitly, and for every change reported while no
reply is being applied a revert for each character that went and an advance for a single one that
came. What is written and what is queued are these at every moment, and when the outbound side
waits everything is written. Routing a change reports how many requests it queued, and the edits
that the session makes itself amount to none.

The session serves when it has been connected, and every move that spares it keeps that. -/
theorem engine_reads_calls (before : Workspace) (document : DocumentId) (host : Nat)
    (language : Text) (later : List Move) (reached : before.Reached) (ready : before.Ready language)
    (spare : ∀ move ∈ later, move.Spares before.sessions.length document) :
    let number := before.sessions.length
    let connected := before.perform (.activate document host language)
    let after := connected.run later
    let requests := Request.start language :: Call.owed (connected.log number later)
    ∃ session, after.sessions[number]? = some session ∧
      after.registered? document = some number ∧
      session.outlet.sink.written ++ Request.encodeAll session.outlet.queue =
        Request.encodeAll requests ∧
      (session.stepOutlet = none → session.outlet.sink.written = Request.encodeAll requests) ∧
      (∀ change, let added := (Call.hear change session.worker.isApplying).requests
        (after.documentChanged document change).2 = added.length ∧
          ∃ told, (after.documentChanged document change).1.sessions[number]? = some told ∧
            told.outlet.queue = session.outlet.queue ++ added) ∧
      ∀ actor, Call.owed (after.calls number (.act number actor)) = [] := by
  obtain ⟨settings, directory, supply, refusal, earlier, rfl⟩ := reached
  have numbered := (numbered_start settings directory supply refusal).run earlier
  obtain ⟨first, opened⟩ := serves_connected numbered ready document host
  obtain ⟨session, serves⟩ := opened.run later spare
  have bytes : ∀ requests, Request.encode (.start language) ++ Request.encodeAll requests =
      Request.encodeAll (.start language :: requests) := fun _ => rfl
  rw [bytes] at serves
  exact ⟨session, serves.present, serves.registered, serves.carries.stream,
    serves.carries.written_of_idle, serves.documentChanged_queues, owed_own_steps _ _⟩

/-- A client with one open document and a connection to be had. -/
def expansionStart : Workspace :=
  (start .defaults [] [.fresh] (.noSession ⟨['d']⟩)).run
    [.openDocument (.ofBuffer ⟨['d']⟩ .ordinary .empty true)]

/-- The engine expands a typed character. The user types a further one while the expansion is being
applied, takes it away afterwards, and the languages are asked for. -/
def expansionRun : List Move :=
  [.act 0 .outlet, .edit ⟨['d']⟩ (.type 'a'), .act 0 .outlet, .deliver 0 [97, 98, 0],
    .act 0 .intake, .act 0 .intake, .act 0 .intake, .act 0 .intake,
    .act 0 .worker, .act 0 .worker, .act 0 .worker, .act 0 .worker,
    .edit ⟨['d']⟩ (.type 'c'), .act 0 .worker, .edit ⟨['d']⟩ .backspace,
    .send ⟨['d']⟩ .languages, .act 0 .outlet, .act 0 .outlet]

/-- The workspace after that run. -/
def expansionEnd : Workspace :=
  (expansionStart.perform (.activate ⟨['d']⟩ 0 ['e', 'n'])).run expansionRun

/-- Of that run the engine reads the language, the first character, the revert and the question,
and neither the expansion nor what was typed during it. -/
theorem engine_reads_expansion :
    expansionStart.Reached ∧ expansionStart.Ready ['e', 'n'] ∧
      (∀ move ∈ expansionRun, move.Spares 0 ⟨['d']⟩) ∧
      ∃ session, expansionEnd.sessions[0]? = some session ∧
        session.outlet.sink.written = [5, 101, 110, 0, 97, 0, 3, 1] := by
  have reached : expansionStart.Reached := ⟨_, _, _, _, _, rfl⟩
  have ready : expansionStart.Ready ['e', 'n'] := ⟨rfl, _, _, rfl, rfl⟩
  have spare : ∀ move ∈ expansionRun, move.Spares 0 ⟨['d']⟩ := by
    simp [expansionRun, Move.Spares]
  obtain ⟨session, present, -, -, written, -⟩ :=
    engine_reads_calls expansionStart ⟨['d']⟩ 0 ['e', 'n'] expansionRun reached ready spare
  have last : expansionEnd.sessions[0]? = some session := present
  have waits : (expansionEnd.sessions[0]?.bind Session.stepOutlet).isNone := by decide
  rw [last] at waits
  have idle : session.stepOutlet = none := Option.isNone_iff_eq_none.mp waits
  exact ⟨reached, ready, spare, session, last, (written idle).trans (by decide)⟩

end Workspace

end Typeahead

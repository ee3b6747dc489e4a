import Typeahead.Workspace.Schedule

/-!
# Runs of a workspace

A run is any sequence of moves of the user, the editor, the engine and the workers of the
sessions, with time passing in between; a move that cannot be made changes nothing. The
lemmas of this module follow the register through a run. Only connecting a document and
taking one out change it, so that every number in it is that of a session, and the number
of the next session is in use nowhere: `Numbered.run`.
-/

namespace Typeahead.Workspace

/-- What may happen to a workspace next. -/
inductive Move where
  /-- A document is opened. -/
  | openDocument (host : Host)
  /-- The ways of a document's host change. -/
  | adjustHost (document : DocumentId) (adjust : Host → Host)
  /-- The user, or the editor, operates on a document. -/
  | edit (document : DocumentId) (operation : Buffer.Operation)
  /-- A change of a document is reported. -/
  | report (document : DocumentId) (change : Change)
  /-- A session is told of a change. -/
  | tell (number : Nat) (change : Change)
  /-- A request is sent for a document. -/
  | send (document : DocumentId) (request : Request)
  /-- A session sends a request. -/
  | sendBy (number : Nat) (request : Request)
  /-- A session gives its latest cursor handle back. -/
  | restoreCursor (number : Nat)
  /-- The engine writes on a connection. -/
  | deliver (connection : Nat) (content : Bytes)
  /-- Reads of a session's connection bring bytes, or fail. -/
  | arrive (number : Nat) (arrivals : List Arrival)
  /-- The engine writes no more on a session's connection, and still reads from it. -/
  | endInbound (number : Nat)
  /-- The engine drops its end of a connection. -/
  | hangUp (connection : Nat)
  /-- A document is connected. -/
  | activate (document : DocumentId) (host : Nat) (language : Text)
  /-- A document is taken out of the register. -/
  | forget (document : DocumentId)
  /-- A session is told to stop. -/
  | cancel (number : Nat)
  /-- A worker takes a step, unless it has to wait. -/
  | act (number : Nat) (actor : Actor)
  /-- Time passes. -/
  | pass (time : Nat)

/-- Change the inbound side of a session. -/
def withIntake (workspace : Workspace) (number : Nat) (change : Intake → Intake) : Workspace :=
  match workspace.sessions[number]? with
  | none => workspace
  | some session => workspace.setSession number { session with intake := change session.intake }

/-- The workspace after a move. -/
def perform (workspace : Workspace) : Move → Workspace
  | .openDocument host => workspace.openDocument host
  | .adjustHost document adjust => workspace.adjustHost document adjust
  | .edit document operation =>
    match workspace.edit document operation with
    | .error _ => workspace
    | .ok (next, _) => next
  | .report document change => (workspace.documentChanged document change).1
  | .tell number change => (workspace.tellSession number change).1
  | .send document request => (workspace.send document request).1
  | .sendBy number request => (workspace.sendBy number request).1
  | .restoreCursor number => (workspace.restoreCursor number).1
  | .deliver connection content => (workspace.deliver connection content).1
  | .arrive number arrivals => workspace.withIntake number (·.receive arrivals)
  | .endInbound number => workspace.withIntake number Intake.close
  | .hangUp connection => workspace.hangUp connection
  | .activate document host language => (workspace.activate document host language).1
  | .forget document => workspace.forget document
  | .cancel number => workspace.cancel number
  | .act number actor => (workspace.act number actor).getD workspace
  | .pass time => { workspace with clock := workspace.clock + time }

/-- The workspace after a run. -/
def run : Workspace → List Move → Workspace
  | workspace, [] => workspace
  | workspace, move :: rest => run (workspace.perform move) rest

/-- A run behind another is one run. -/
theorem run_append (workspace : Workspace) (first second : List Move) :
    workspace.run (first ++ second) = (workspace.run first).run second := by
  induction first generalizing workspace with
  | nil => rfl
  | cons move rest inductionHypothesis => exact inductionHypothesis (workspace.perform move)

/-- A session that is put in a place stands there. -/
theorem sessions_setSession {workspace : Workspace} {number : Nat} {session : Session}
    (present : workspace.sessions[number]? = some session) (after : Session) :
    (workspace.setSession number after).sessions[number]? = some after :=
  List.getElem?_set_self (List.getElem?_eq_some_iff.mp present).1

/-- Every other one stands where it stood. -/
theorem sessions_setSession_other (workspace : Workspace) {number other : Nat}
    (different : other ≠ number) (after : Session) :
    (workspace.setSession other after).sessions[number]? = workspace.sessions[number]? :=
  List.getElem?_set_ne different

/-- The register and the number of sessions are as they were. -/
structure KeepsRegister (workspace next : Workspace) : Prop where
  register : next.registered = workspace.registered
  count : next.sessions.length = workspace.sessions.length

variable {workspace middle next : Workspace}

/-- Nothing happened to the register. -/
theorem KeepsRegister.refl (workspace : Workspace) : KeepsRegister workspace workspace :=
  ⟨rfl, rfl⟩

/-- What is kept twice is kept. -/
theorem KeepsRegister.trans (first : KeepsRegister workspace middle)
    (second : KeepsRegister middle next) : KeepsRegister workspace next :=
  ⟨second.register.trans first.register, second.count.trans first.count⟩

/-- Two workspaces differ in their sessions only, and they have as many. -/
structure SessionsOnly (workspace next : Workspace) : Prop where
  others : next = { workspace with sessions := next.sessions }
  count : next.sessions.length = workspace.sessions.length

namespace SessionsOnly

/-- Nothing is different. -/
theorem refl (workspace : Workspace) : SessionsOnly workspace workspace :=
  ⟨rfl, rfl⟩

/-- The register is the same. -/
theorem keepsRegister (only : SessionsOnly workspace next) : KeepsRegister workspace next :=
  ⟨(congrArg registered only.others).trans rfl, only.count⟩

/-- Settings and clock are the same. -/
theorem onward (only : SessionsOnly workspace next) :
    next.settings = workspace.settings ∧ workspace.clock ≤ next.clock := by
  rw [only.others]
  exact ⟨rfl, Nat.le_refl _⟩

/-- The hosts are the same. -/
theorem hosts (only : SessionsOnly workspace next) : next.hosts = workspace.hosts :=
  (congrArg Workspace.hosts only.others).trans rfl

end SessionsOnly

/-- A session in the place of another one is one session still. -/
theorem setSession_only (workspace : Workspace) (number : Nat) (session : Session) :
    SessionsOnly workspace (workspace.setSession number session) :=
  ⟨rfl, List.length_set⟩

/-- A session told to stop keeps its place. -/
theorem cancel_only (workspace : Workspace) (number : Nat) :
    SessionsOnly workspace (workspace.cancel number) :=
  ⟨rfl, List.length_modify _ _ _⟩

/-- A session that hears of a change keeps its place. -/
theorem tellSession_only (workspace : Workspace) (number : Nat) (change : Change) :
    SessionsOnly workspace (workspace.tellSession number change).1 := by
  unfold tellSession
  split
  · exact .refl _
  · exact setSession_only _ _ _

/-- Routing a change changes nothing but sessions. -/
theorem documentChanged_only (workspace : Workspace) (document : DocumentId) (change : Change) :
    SessionsOnly workspace (workspace.documentChanged document change).1 := by
  unfold documentChanged
  split
  · exact .refl _
  · exact tellSession_only _ _ _

/-- Reporting an edit changes nothing but sessions. -/
theorem report_only (workspace : Workspace) (host : Host) (change : Option Change) :
    SessionsOnly workspace (workspace.report host change) := by
  unfold report
  split
  · split
    · exact documentChanged_only _ _ _
    · exact .refl _
  · exact .refl _

/-- Sending changes nothing but the session. -/
theorem sendBy_only (workspace : Workspace) (number : Nat) (request : Request) :
    SessionsOnly workspace (workspace.sendBy number request).1 := by
  unfold sendBy
  split
  · exact .refl _
  · exact setSession_only _ _ _

/-- A session whose inbound side changes keeps its place. -/
theorem withIntake_only (workspace : Workspace) (number : Nat) (change : Intake → Intake) :
    SessionsOnly workspace (workspace.withIntake number change) := by
  unfold withIntake
  split
  · exact .refl _
  · exact setSession_only _ _ _

/-- A move that does something to sessions alone. -/
def Move.OfSessions : Move → Prop
  | .report _ _ | .tell _ _ | .send _ _ | .sendBy _ _ | .restoreCursor _ => True
  | .arrive _ _ | .endInbound _ | .cancel _ => True
  | _ => False

/-- Such a move changes nothing else. -/
theorem perform_only (workspace : Workspace) {move : Move} (ofSessions : move.OfSessions) :
    SessionsOnly workspace (workspace.perform move) := by
  cases move with
  | report document change => exact documentChanged_only workspace document change
  | tell number change => exact tellSession_only workspace number change
  | send document request =>
    simp only [perform, send]
    split
    · exact .refl _
    · exact sendBy_only _ _ _
  | sendBy number request => exact sendBy_only workspace number request
  | restoreCursor number =>
    simp only [perform, restoreCursor]
    split
    · exact .refl _
    · exact setSession_only _ _ _
  | arrive number arrivals => exact withIntake_only workspace number (·.receive arrivals)
  | endInbound number => exact withIntake_only workspace number Intake.close
  | cancel number => exact cancel_only workspace number
  | _ => cases ofSessions

/-- A host has no part in the register. -/
theorem setHost_keeps_register (workspace : Workspace) (number : Nat) (host : Host) :
    KeepsRegister workspace (workspace.setHost number host) :=
  ⟨rfl, rfl⟩

/-- What a step of an actor is, when it is taken. -/
inductive Acted (workspace : Workspace) (number : Nat) (session : Session) :
    Actor → Workspace → Prop where
  /-- The inbound side works. -/
  | intake {after : Session} (stepped : session.stepIntake = some after) :
      Acted workspace number session .intake (workspace.setSession number after)
  /-- The outbound side works. -/
  | outlet {after : Session} (stepped : session.stepOutlet = some after) :
      Acted workspace number session .outlet (workspace.setSession number after)
  /-- The applying worker works, and an edit of the host is reported. -/
  | worker {host hostAfter : Host} {after : Session} {change : Option Change}
      (hosted : workspace.hosts[session.host]? = some host)
      (stepped : session.stepWorker host workspace.clock = some (after, hostAfter, change)) :
      Acted workspace number session .worker
        (((workspace.setSession number after).setHost session.host hostAfter).report hostAfter
          change)

/-- Only a session that exists acts. -/
theorem act_acted {number : Nat} {actor : Actor} (acted : workspace.act number actor = some next) :
    ∃ session, workspace.sessions[number]? = some session ∧
      Acted workspace number session actor next := by
  cases present : workspace.sessions[number]? with
  | none => simp [act, present] at acted
  | some session =>
    refine ⟨session, rfl, ?_⟩
    cases actor with
    | intake =>
      obtain ⟨after, stepped, rfl⟩ : ∃ after, session.stepIntake = some after ∧
          workspace.setSession number after = next := by
        simpa [act, present, Option.bind_eq_some_iff] using acted
      exact .intake stepped
    | outlet =>
      obtain ⟨after, stepped, rfl⟩ : ∃ after, session.stepOutlet = some after ∧
          workspace.setSession number after = next := by
        simpa [act, present, Option.bind_eq_some_iff] using acted
      exact .outlet stepped
    | worker =>
      obtain ⟨host, hosted, after, hostAfter, change, stepped, rfl⟩ :
          ∃ host, workspace.hosts[session.host]? = some host ∧ ∃ after hostAfter change,
            session.stepWorker host workspace.clock = some (after, hostAfter, change) ∧
            ((workspace.setSession number after).setHost session.host hostAfter).report
              hostAfter change = next := by
        simpa [act, present, Option.bind_eq_some_iff] using acted
      exact .worker hosted stepped

/-- What an actor of a session does, it does with that session. -/
theorem act_acted_by {number : Nat} {session : Session} {actor : Actor}
    (present : workspace.sessions[number]? = some session)
    (acted : workspace.act number actor = some next) :
    Acted workspace number session actor next := by
  obtain ⟨acting, acts, step⟩ := act_acted acted
  obtain rfl : acting = session := Option.some.inj (acts.symm.trans present)
  exact step

/-- A step of an actor leaves the register as it is. -/
theorem act_keeps_register {number : Nat} {actor : Actor}
    (acted : workspace.act number actor = some next) : KeepsRegister workspace next := by
  obtain ⟨session, -, step⟩ := act_acted acted
  cases step with
  | intake => exact (setSession_only _ _ _).keepsRegister
  | outlet => exact (setSession_only _ _ _).keepsRegister
  | worker hosted stepped =>
    exact (setSession_only _ _ _).keepsRegister.trans
      ((setHost_keeps_register _ _ _).trans (report_only _ _ _).keepsRegister)

/-- Bytes on a connection leave the register as it is. -/
theorem deliver_keeps_register (workspace : Workspace) (connection : Nat) (content : Bytes) :
    KeepsRegister workspace (workspace.deliver connection content).1 := by
  unfold deliver
  split
  · split
    · exact .refl _
    · exact (setSession_only _ _ _).keepsRegister
  · split
    · exact .refl _
    · split
      · exact ⟨rfl, rfl⟩
      · exact .refl _

/-- The end of a connection leaves the register as it is. -/
theorem hangUp_keeps_register (workspace : Workspace) (connection : Nat) :
    KeepsRegister workspace (workspace.hangUp connection) := by
  unfold hangUp
  split
  · exact (setSession_only _ _ _).keepsRegister
  · exact ⟨rfl, rfl⟩

/-- An operation of the user leaves the register as it is. -/
theorem edit_keeps_register {document : DocumentId} {operation : Buffer.Operation}
    {change : Option Change} (edited : workspace.edit document operation = .ok (next, change)) :
    KeepsRegister workspace next := by
  unfold edit at edited
  split at edited
  · cases edited
    exact .refl _
  · split at edited
    · cases edited
      exact .refl _
    · next number host hosted =>
      cases outcome : host.edit operation with
      | error fault => simp [outcome, Except.map] at edited
      | ok result =>
        simp only [outcome, Except.map, Except.ok.injEq, Prod.mk.injEq] at edited
        obtain ⟨rfl, -⟩ := edited
        exact (setHost_keeps_register _ _ _).trans (report_only _ _ _).keepsRegister

/-- Whether a move is one that changes the register. -/
def Registers : Move → Prop
  | .activate _ _ _ => True
  | .forget _ => True
  | _ => False

/-- Every other move leaves the register as it is. -/
theorem perform_keeps_register (workspace : Workspace) (move : Move) (other : ¬ Registers move) :
    KeepsRegister workspace (workspace.perform move) := by
  cases move with
  | openDocument => exact ⟨rfl, rfl⟩
  | adjustHost =>
    simp only [perform, adjustHost]
    split <;> exact ⟨rfl, rfl⟩
  | edit =>
    simp only [perform]
    split
    · exact .refl _
    · next edited => exact edit_keeps_register edited
  | report | tell | send | sendBy | restoreCursor | arrive | endInbound | cancel =>
    exact SessionsOnly.keepsRegister (perform_only workspace trivial)
  | deliver => exact deliver_keeps_register _ _ _
  | hangUp => exact hangUp_keeps_register _ _
  | activate | forget => exact absurd trivial other
  | act number actor =>
    simp only [perform]
    cases acted : workspace.act number actor with
    | none => exact .refl _
    | some next => exact act_keeps_register acted
  | pass => exact ⟨rfl, rfl⟩

/-- Every move leaves the settings as they are, and time does not go back. -/
theorem perform_onward (workspace : Workspace) (move : Move) :
    (workspace.perform move).settings = workspace.settings ∧
      workspace.clock ≤ (workspace.perform move).clock := by
  have still : workspace.settings = workspace.settings ∧ workspace.clock ≤ workspace.clock :=
    ⟨rfl, Nat.le_refl _⟩
  cases move with
  | openDocument | forget => exact still
  | pass => exact ⟨rfl, Nat.le_add_right _ _⟩
  | adjustHost =>
    simp only [perform, adjustHost]
    split <;> exact still
  | report | tell | send | sendBy | restoreCursor | arrive | endInbound | cancel =>
    exact SessionsOnly.onward (perform_only workspace trivial)
  | edit document operation =>
    simp only [perform, edit]
    cases workspace.hostOf? document with
    | none => exact still
    | some place =>
      cases hosted : workspace.hosts[place]? with
      | none => simpa only [hosted] using still
      | some host =>
        cases outcome : host.edit operation with
        | error fault => simpa only [hosted, outcome, Except.map] using still
        | ok result =>
          simp only [hosted, outcome, Except.map]
          exact (report_only _ _ _).onward
  | deliver connection content =>
    simp only [perform, deliver]
    split
    · split <;> exact still
    · split
      · exact still
      · split <;> exact still
  | hangUp connection =>
    simp only [perform, hangUp]
    split <;> exact still
  | activate document host language =>
    simp only [perform, activate, connect]
    split
    · exact still
    · cases workspace.lines with
      | nil => exact still
      | cons line lines =>
        simp only
        split
        · exact still
        · cases workspace.registered? document <;> exact still
  | act number actor =>
    simp only [perform]
    cases acted : workspace.act number actor with
    | none => exact still
    | some next =>
      obtain ⟨session, -, step⟩ := act_acted acted
      cases step with
      | intake | outlet => exact still
      | worker => exact (report_only _ _ _).onward

/-- Every run leaves the settings as they are, and time does not go back. -/
theorem run_onward (workspace : Workspace) (moves : List Move) :
    (workspace.run moves).settings = workspace.settings ∧
      workspace.clock ≤ (workspace.run moves).clock := by
  induction moves generalizing workspace with
  | nil => exact ⟨rfl, Nat.le_refl _⟩
  | cons move rest inductionHypothesis =>
    obtain ⟨settings, clock⟩ := workspace.perform_onward move
    obtain ⟨sameSettings, later⟩ := inductionHypothesis (workspace.perform move)
    exact ⟨sameSettings.trans settings, Nat.le_trans clock later⟩

/-- Looking a document up in a register that begins with some entry. -/
theorem lookup_entry (entered other : DocumentId) (number : Nat) (rest : List (DocumentId × Nat)) :
    ((entered, number) :: rest).lookup other =
      if other = entered then some number else rest.lookup other := by
  by_cases same : other = entered
  · simp [same]
  · simp [List.lookup_cons, same, beq_eq_false_iff_ne.mpr same]

/-- The register without a document, as it is looked up. -/
theorem registered?_forget (workspace : Workspace) (document other : DocumentId) :
    (workspace.forget document).registered? other =
      if other = document then none else workspace.registered? other := by
  unfold registered? forget
  induction workspace.registered with
  | nil => simp
  | cons entry rest inductionHypothesis =>
    obtain ⟨entered, number⟩ := entry
    by_cases removed : entered = document
    · rw [List.filter_cons_of_neg (by simpa using removed), inductionHypothesis, lookup_entry,
        removed]
      by_cases same : other = document <;> simp [same]
    · rw [List.filter_cons_of_pos (by simpa using removed), lookup_entry, lookup_entry,
        inductionHypothesis]
      by_cases same : other = entered
      · simp [same, removed]
      · simp [same]

/-- The register with a number entered for a document, as it is looked up. -/
theorem registered?_register (workspace : Workspace) (document other : DocumentId) (number : Nat) :
    (workspace.register document number).registered? other =
      if other = document then some number else workspace.registered? other := by
  have kept := registered?_forget workspace document other
  unfold registered? at kept ⊢
  rw [register, List.lookup_append, kept, lookup_entry]
  by_cases same : other = document <;> simp [same]

/-- How a workspace differs when a document has been connected: the session is the next one and
has the document's place, and apart from the one that had it the others are as they were. -/
structure Connected (workspace next : Workspace) (document : DocumentId) (session : Session) :
    Prop where
  register : ∀ other, next.registered? other =
    if other = document then some workspace.sessions.length else workspace.registered? other
  count : next.sessions.length = workspace.sessions.length + 1
  kept : ∀ number < workspace.sessions.length, workspace.registered? document ≠ some number →
    next.sessions[number]? = workspace.sessions[number]?
  added : workspace.registered? document ≠ some workspace.sessions.length →
    next.sessions[workspace.sessions.length]? = some session

/-- A session as it is when its document has just been connected. -/
def opened (workspace : Workspace) (document : DocumentId) (host : Nat) (language : Text)
    (line : Line) : Session :=
  ((Session.start document language host workspace.settings (line.intake workspace.settings)
    line.sink).send (.start language)).1

/-- A workspace in which a document has just been connected, and no session told to stop yet. -/
def placed (workspace : Workspace) (document : DocumentId) (host : Nat) (language : Text)
    (line : Line) (lines : List Line) : Workspace :=
  let asked := { workspace with
    contacted := workspace.contacted ++ [workspace.settings.address workspace.directory]
    lines }
  (asked.attach (workspace.opened document host language line)).register document
    workspace.sessions.length

/-- The new session is the last one. -/
@[simp]
theorem placed_sessions (workspace : Workspace) (document : DocumentId) (host : Nat)
    (language : Text) (line : Line) (lines : List Line) :
    (workspace.placed document host language line lines).sessions =
      workspace.sessions ++ [workspace.opened document host language line] :=
  rfl

/-- With a usable language and a connection to be had, a document is connected, and the session that
had its place is told to stop. -/
theorem activate_eq {language : Text} {line : Line} {lines : List Line} (document : DocumentId)
    (host : Nat) (usable : Request.start? language = .ok (.start language))
    (given : workspace.lines = line :: lines) :
    let placed := workspace.placed document host language line lines
    workspace.activate document host language =
      ((workspace.registered? document).elim placed placed.cancel,
        .ok (workspace.registered? document)) := by
  have sent : (Session.start document language host workspace.settings
      (line.intake workspace.settings) line.sink).send (.start language) =
      (workspace.opened document host language line, .ok ()) := rfl
  simp only [activate, usable, connect, given, sent]
  rfl

/-- With a usable language and a connection to be had, a document is connected. -/
theorem activate_connected {language : Text} {line : Line} {lines : List Line}
    (document : DocumentId) (host : Nat)
    (usable : Request.start? language = .ok (.start language))
    (given : workspace.lines = line :: lines) :
    Connected workspace (workspace.activate document host language).1 document
      (workspace.opened document host language line) := by
  rw [activate_eq document host usable given]
  cases previous : workspace.registered? document with
  | none =>
    refine ⟨fun other => registered?_register _ document other _, ?_, ?_, ?_⟩
    · simp
    · intro number inside _
      simp [List.getElem?_append_left inside]
    · intro _
      simp
  | some replaced =>
    refine ⟨fun other => registered?_register _ document other _, ?_, ?_, ?_⟩
    · simp [cancel]
    · intro number inside different
      have other : replaced ≠ number := by
        rintro rfl
        exact different previous
      simp [cancel, other, List.getElem?_append_left inside]
    · intro different
      have other : replaced ≠ workspace.sessions.length := by
        rintro rfl
        exact different previous
      simp [cancel, other]

/-- Only with a usable language and a connection is a document connected; otherwise sessions and
register stay as they are. -/
theorem activate_cases (workspace : Workspace) (document : DocumentId) (host : Nat)
    (language : Text) :
    (workspace.activate document host language).1.registered = workspace.registered ∧
        (workspace.activate document host language).1.sessions = workspace.sessions ∨
      ∃ line lines, Request.start? language = .ok (.start language) ∧
        workspace.lines = line :: lines := by
  by_cases usable : language = [] ∨ Char.ofNat 0 ∈ language
  · left
    have refused : Request.start? language = .error (.unusableLanguage language) := if_pos usable
    simp [activate, refused]
  · have made : Request.start? language = .ok (.start language) := if_neg usable
    cases given : workspace.lines with
    | nil => exact .inl (by simp [activate, made, connect, given])
    | cons line lines => exact .inr ⟨line, lines, made, rfl⟩

/-- Every number in the register is that of a session. -/
def Numbered (workspace : Workspace) : Prop :=
  ∀ document number, workspace.registered? document = some number →
    number < workspace.sessions.length

/-- The number of the next session is in use nowhere. -/
theorem Numbered.fresh (numbered : workspace.Numbered) (document : DocumentId) :
    workspace.registered? document ≠ some workspace.sessions.length := by
  intro registered
  exact Nat.lt_irrefl _ (numbered document _ registered)

/-- Where the register is kept, its numbers are those of sessions still. -/
theorem Numbered.kept (numbered : workspace.Numbered) (keeps : KeepsRegister workspace next) :
    next.Numbered := by
  intro document number registered
  rw [registered?, keeps.register] at registered
  rw [keeps.count]
  exact numbered document number registered

/-- No move leaves a number in the register that is not that of a session. -/
theorem Numbered.perform (numbered : workspace.Numbered) (move : Move) :
    (workspace.perform move).Numbered := by
  by_cases registers : Registers move
  · cases move with
    | activate document host language =>
      rcases activate_cases workspace document host language with
        ⟨register, sessions⟩ | ⟨line, lines, usable, given⟩
      · exact numbered.kept ⟨register, congrArg List.length sessions⟩
      · have connected := activate_connected document host usable given
        intro other number registered
        have known := (connected.register other).symm.trans registered
        refine connected.count ▸ ?_
        split at known
        · cases known
          exact Nat.lt_succ_self _
        · exact Nat.lt_succ_of_lt (numbered other number known)
    | forget document =>
      intro other number registered
      have known := (registered?_forget workspace document other).symm.trans registered
      split at known
      · cases known
      · exact numbered other number known
    | _ => exact absurd registers id
  · exact numbered.kept (perform_keeps_register workspace move registers)

/-- The numbers in the register are those of sessions after every run. -/
theorem Numbered.run (numbered : workspace.Numbered) (moves : List Move) :
    (workspace.run moves).Numbered := by
  induction moves generalizing workspace with
  | nil => exact numbered
  | cons move rest inductionHypothesis => exact inductionHypothesis (numbered.perform move)

/-- A workspace without documents has an empty register. -/
theorem numbered_start (settings : Settings) (directory : Text) (lines : List Line)
    (refusal : Fault) : (start settings directory lines refusal).Numbered := by
  intro document number registered
  simp [registered?, start] at registered

end Typeahead.Workspace

import Typeahead.Proofs.Workspace.Share

/-!
# Documents do not interfere

A run is *apart* if it connects documents to hosts of their own only. Then every move is
seen in the share of a document as a step of this document or not at all: `share_perform`.
So the share after a run comes of the document's own steps alone, whatever happens to other
documents in between, and with it all that the user and the engine get to see of the
document: `share_run`.

Of the document's own steps some are due by themselves, such as reading what has arrived or
taking a reply. A *rule* says which task of the document is due, given its share. Two runs
in which the tasks of the document keep to the same rule differ in nothing that can be seen of the
document if they agree in what is given from outside: `documents_apart`. With the rule by
which no task is ever due, this says that equal steps lead to an equal display.
-/

namespace Typeahead.Workspace

/-- A move that mixes no documents: a document is connected to a host of its own, and a host whose
ways change remains one of its document. -/
def Move.Apart (workspace : Workspace) : Move → Prop
  | .adjustHost _ adjust => ∀ host, (adjust host).document = host.document
  | .activate document place _ =>
    ∃ host, workspace.hosts[place]? = some host ∧ host.document = document
  | _ => True

/-- A run of such moves. -/
def ApartRun : Workspace → List Move → Prop
  | _, [] => True
  | workspace, move :: rest => move.Apart workspace ∧ ApartRun (workspace.perform move) rest

/-- A workspace that came about by such moves, in which replies are awaited as long as it takes. -/
def Orderly (workspace : Workspace) : Prop :=
  ∃ settings directory lines refusal moves, settings.replyTimeout = none ∧
    (start settings directory lines refusal).ApartRun moves ∧
    workspace = (start settings directory lines refusal).run moves

/-- A step of a document, in terms of its share: a move with the document's own numbers and, when
the document is connected, the connection that it gets. -/
structure Step where
  move : Move
  line : Option Line

/-- The session that a move is for. -/
def Move.session? : Move → Option Nat
  | .tell number _ => some number
  | .sendBy number _ => some number
  | .restoreCursor number => some number
  | .deliver connection _ => some connection
  | .arrive number _ => some number
  | .endInbound number => some number
  | .hangUp connection => some connection
  | .cancel number => some number
  | .act number _ => some number
  | _ => none

/-- The document that a move names. -/
def Move.document? : Move → Option DocumentId
  | .openDocument host => some host.document
  | .adjustHost document _ => some document
  | .edit document _ => some document
  | .report document _ => some document
  | .send document _ => some document
  | .activate document _ _ => some document
  | .forget document => some document
  | _ => none

/-- A move with other numbers for sessions and hosts. -/
def Move.renumber (session host : Nat → Nat) : Move → Move
  | .tell number change => .tell (session number) change
  | .sendBy number request => .sendBy (session number) request
  | .restoreCursor number => .restoreCursor (session number)
  | .deliver connection content => .deliver (session connection) content
  | .arrive number arrivals => .arrive (session number) arrivals
  | .endInbound number => .endInbound (session number)
  | .hangUp connection => .hangUp (session connection)
  | .cancel number => .cancel (session number)
  | .act number actor => .act (session number) actor
  | .activate document place language => .activate document (host place) language
  | move => move

/-- The document that a move is for: that of its session, or the one that it names. -/
def documentOf? (workspace : Workspace) (move : Move) : Option DocumentId :=
  match move.session? with
  | some number => workspace.sessions[number]?.map Session.document
  | none => move.document?

/-- Whether a move can be made: an actor does not have to wait, and a document gets a connection. -/
def canMake (workspace : Workspace) : Move → Bool
  | .act number actor => (workspace.act number actor).isSome
  | .activate _ _ language => (Request.start? language).isOk && !workspace.lines.isEmpty
  | _ => true

/-- The connection that a move takes. -/
def lineFor? (workspace : Workspace) : Move → Option Line
  | .activate _ _ _ => workspace.lines.head?
  | _ => none

/-- The step that a move is of a document, if it is one. -/
def ownStep? (document : DocumentId) (workspace : Workspace) (move : Move) : Option Step :=
  if workspace.documentOf? move = some document ∧ workspace.canMake move = true then
    some ⟨move.renumber (workspace.sessionNumber document) (workspace.hostNumber document),
      workspace.lineFor? move⟩
  else none

/-- The steps of a document in a run, in order. -/
def ownSteps (document : DocumentId) : Workspace → List Move → List Step
  | _, [] => []
  | workspace, move :: rest =>
    (workspace.ownStep? document move).toList ++ ownSteps document (workspace.perform move) rest

/-- The share of a document after one of its steps. -/
def after (shared : Workspace) (step : Step) : Workspace :=
  (({ shared with lines := step.line.toList } : Workspace).perform step.move).timeless

/-! ## Runs that are apart -/

variable {workspace next : Workspace} {document : DocumentId} {move : Move} {number : Nat}
  {session : Session}

/-- A workspace without documents is parted. -/
theorem parted_start (settings : Settings) (directory : Text) (lines : List Line)
    (refusal : Fault) : (start settings directory lines refusal).Parted := by
  constructor
  case hosted =>
    intro number session there
    cases there
  case register =>
    intro document number registered
    simp [registered?, start] at registered

/-- The register of a parted workspace leads to sessions. -/
theorem Parted.numbered (parted : workspace.Parted) : workspace.Numbered := by
  intro document number registered
  obtain ⟨session, present, -⟩ := parted.register document number registered
  exact (List.getElem?_eq_some_iff.mp present).1

/-- A host of a document is one after every move that is apart. -/
theorem Move.Apart.host (apart : move.Apart workspace) {place : Nat} {host : Host}
    (hosted : workspace.hosts[place]? = some host) :
    ∃ after, (workspace.perform move).hosts[place]? = some after ∧
      after.document = host.document := by
  obtain ⟨after, there, became⟩ := perform_host hosted move
  refine ⟨after, there, ?_⟩
  cases became with
  | turned turn => exact turn.document
  | adjusted document adjust => exact apart host

/-- A move that is apart leaves a workspace parted. -/
theorem Parted.perform (parted : workspace.Parted) (apart : move.Apart workspace) :
    (workspace.perform move).Parted := by
  have goesOn {number : Nat} {session : Session}
      (present : workspace.sessions[number]? = some session) :
      ∃ after, (workspace.perform move).sessions[number]? = some after ∧
        after.document = session.document ∧ after.host = session.host := by
    obtain ⟨after, there, course⟩ := leads_perform present move
    exact ⟨after, there, course.keepsAll.document, course.keepsAll.place⟩
  constructor
  case hosted =>
    intro number session there
    cases present : workspace.sessions[number]? with
    | some before =>
      obtain ⟨after, same, document, place⟩ := goesOn present
      obtain rfl := Option.some.inj (there.symm.trans same)
      obtain ⟨host, hosted, named⟩ := parted.hosted number before present
      obtain ⟨hostAfter, hostedAfter, kept⟩ := apart.host hosted
      exact ⟨hostAfter, place ▸ hostedAfter, kept.trans (named.trans document.symm)⟩
    | none =>
      obtain ⟨document, place, language, line, rfl, rfl⟩ :=
        perform_newSession parted.numbered there present
      obtain ⟨host, hosted, named⟩ := apart
      exact ⟨host, (activate_hosts workspace document place language).symm ▸ hosted, named⟩
  case register =>
    intro document number registered
    have kept (before : workspace.registered? document = some number) :
        ∃ session, (workspace.perform move).sessions[number]? = some session ∧
          session.document = document := by
      obtain ⟨session, present, named⟩ := parted.register document number before
      obtain ⟨after, there, same, -⟩ := goesOn present
      exact ⟨after, there, same.trans named⟩
    by_cases registers : Registers move
    · cases move with
      | activate other place language =>
        rcases activate_cases workspace other place language with
          ⟨register, -⟩ | ⟨line, lines, usable, given⟩
        · exact kept (by rw [← registered, registered?, registered?, perform, register])
        · have connected := activate_connected other place usable given
          have known := (connected.register document).symm.trans registered
          split at known
          · next same =>
            cases known
            exact ⟨_, connected.added (parted.numbered.fresh other), same.symm⟩
          · exact kept known
      | forget other =>
        have known := (registered?_forget workspace other document).symm.trans registered
        split at known
        · cases known
        · exact kept known
      | _ => exact absurd registers id
    · have register := (perform_keeps_register workspace move registers).register
      exact kept (by rw [← registered, registered?, registered?, register])

/-- Moves that are all apart make up a run that is apart, since hosts remain those of their
documents. -/
theorem apartRun_of_forall {moves : List Move} (apart : ∀ move ∈ moves, move.Apart workspace) :
    workspace.ApartRun moves := by
  induction moves generalizing workspace with
  | nil => trivial
  | cons move rest inductionHypothesis =>
    obtain ⟨first, others⟩ := List.forall_mem_cons.mp apart
    refine ⟨first, inductionHypothesis fun later member => ?_⟩
    have kept := others later member
    cases later with
    | activate document place language =>
      obtain ⟨host, hosted, named⟩ := kept
      obtain ⟨after, there, same⟩ := first.host hosted
      exact ⟨after, there, same.trans named⟩
    | adjustHost document adjust => exact kept
    | _ => trivial

/-- A workspace in which replies are awaited as long as it takes. -/
structure Patient (workspace : Workspace) : Prop where
  settings : workspace.settings.replyTimeout = none
  sessions : workspace.Everywhere Session.Untimed

/-- No move makes a workspace less patient. -/
theorem Patient.perform (patient : workspace.Patient) (numbered : workspace.Numbered)
    (move : Move) : (workspace.perform move).Patient := by
  have settings : (workspace.perform move).settings.replyTimeout = none := by
    rw [(workspace.perform_onward _).1, patient.settings]
  have sessions := @Everywhere.perform workspace
    (fun settings session => settings.replyTimeout = none → session.Untimed)
    (fun workspace document host language line patient => ⟨patient, rfl⟩)
    (fun settings session exchanges after untimed turn patient =>
      ((untimed patient).turn turn).1)
    (fun number session present _ => patient.sessions number session present) numbered move
  exact ⟨settings, fun number session present => sessions number session present settings⟩

/-- A workspace that came about by moves that are apart is parted and patient. -/
theorem Orderly.parted (orderly : workspace.Orderly) : workspace.Parted ∧ workspace.Patient := by
  obtain ⟨settings, directory, lines, refusal, moves, patient, apart, rfl⟩ := orderly
  have begun := parted_start settings directory lines refusal
  have waits : (start settings directory lines refusal).Patient :=
    ⟨patient, fun number session there => nomatch there⟩
  generalize start settings directory lines refusal = workspace at *
  induction moves generalizing workspace with
  | nil => exact ⟨begun, waits⟩
  | cons move rest inductionHypothesis =>
    exact inductionHypothesis _ apart.2 (begun.perform apart.1) (waits.perform begun.numbered move)

/-! ## What is seen of a move -/

/-- A move that alters a session is for this session. -/
theorem Move.alteration?_session {operation : Session → Session}
    (alters : move.alteration? = some (number, operation)) : move.session? = some number := by
  cases move <;> cases alters <;> rfl

/-- With another number it alters the session of that number, and in the same way. -/
theorem Move.alteration?_renumber {operation : Session → Session}
    (alters : move.alteration? = some (number, operation)) (sessions hosts : Nat → Nat) :
    (move.renumber sessions hosts).alteration? = some (sessions number, operation) := by
  cases move <;> cases alters <;> rfl

/-- A move for a session that does not exist is not seen. -/
theorem share_perform_absent (names : move.session? = some number)
    (absent : workspace.sessions[number]? = none) (document : DocumentId) :
    (workspace.perform move).share document = workspace.share document := by
  cases move with
  | tell | sendBy | restoreCursor | arrive | endInbound =>
    obtain rfl := Option.some.inj names
    simp only [perform, tellSession, sendBy, restoreCursor, withIntake, absent]
  | deliver connection content =>
    obtain rfl := Option.some.inj names
    simp only [perform, deliver, absent]
    split
    · rfl
    · split
      · exact share_eq rfl rfl rfl rfl rfl rfl
      · rfl
  | hangUp connection =>
    obtain rfl := Option.some.inj names
    simp only [perform, hangUp, absent]
    exact share_eq rfl rfl rfl rfl rfl rfl
  | cancel other =>
    obtain rfl := Option.some.inj names
    simp only [perform, cancel_eq_alter, alter_absent absent]
  | act other actor =>
    obtain rfl := Option.some.inj names
    simp only [perform, act, absent]
    rfl
  | _ => cases names

/-- A document can be connected with a usable language and a connection to be had. -/
theorem canMake_activate {place : Nat} {language : Text} :
    workspace.canMake (.activate document place language) = true ↔
      ∃ line lines, Request.start? language = .ok (.start language) ∧
        workspace.lines = line :: lines := by
  have usable : (Request.start? language).isOk = true ↔
      Request.start? language = .ok (.start language) := by
    unfold Request.start?
    split <;> simp [Except.isOk, Except.toBool]
  simp only [canMake, Bool.and_eq_true, usable]
  cases workspace.lines <;> simp

/-- A move of the document that can be made is a step of its share. -/
theorem share_perform_own (parted : workspace.Parted) (patient : workspace.Patient)
    (apart : move.Apart workspace) (own : workspace.documentOf? move = some document)
    (can : workspace.canMake move = true) :
    (workspace.perform move).share document =
      (workspace.share document).after
        ⟨move.renumber (workspace.sessionNumber document) (workspace.hostNumber document),
          workspace.lineFor? move⟩ := by
  -- A move that takes no connection leads from the share to a share, which is timeless.
  have without {renumbered : Move} (same : (workspace.perform move).share document =
      (workspace.share document).perform renumbered) :
      (workspace.perform move).share document =
        (workspace.share document).after ⟨renumbered, none⟩ := by
    rw [after, ← share_timeless, same]
    rfl
  have altered {number : Nat} {operation : Session → Session}
      (alters : move.alteration? = some (number, operation)) :
      (workspace.perform move).share document =
        (workspace.share document).perform
          (move.renumber (workspace.sessionNumber document) (workspace.hostNumber document)) := by
    rw [documentOf?, Move.alteration?_session alters] at own
    obtain ⟨session, present, named⟩ := Option.map_eq_some_iff.mp own
    rw [perform_alteration alters present,
      perform_alteration (Move.alteration?_renumber alters _ _) (share_session present named)]
    exact share_visible_own (Move.alteration?_visible alters) present named
  cases move with
  | openDocument host => exact without (share_openDocument_own parted (Option.some.inj own))
  | adjustHost other adjust =>
    obtain rfl := Option.some.inj own
    exact without (share_adjustHost_own workspace other apart)
  | edit other operation =>
    obtain rfl := Option.some.inj own
    exact without (share_edit_own parted operation)
  | report other change =>
    obtain rfl := Option.some.inj own
    exact without (share_documentChanged_own parted change)
  | send other request =>
    obtain rfl := Option.some.inj own
    exact without (share_send_own parted request)
  | forget other =>
    obtain rfl := Option.some.inj own
    exact without (share_forget_own workspace other)
  | tell | sendBy | restoreCursor | deliver | arrive | endInbound | hangUp | cancel =>
    exact without (altered rfl)
  | activate other place language =>
    obtain rfl := Option.some.inj own
    obtain ⟨line, lines, usable, given⟩ := canMake_activate.mp can
    simp only [after, lineFor?, given, List.head?_cons]
    exact share_activate_own parted place usable given
  | act number actor =>
    obtain ⟨session, present, named⟩ := Option.map_eq_some_iff.mp own
    obtain ⟨next, acted⟩ := Option.isSome_iff_exists.mp can
    obtain ⟨shared, sharedActed, same⟩ := share_act_own parted present named
      (patient.sessions number session present) acted
    have reached : (workspace.share document).perform
        (.act (workspace.sessionNumber document number) actor) = shared := by
      simp only [perform, sharedActed, Option.getD_some]
    simp only [perform, acted, Option.getD_some]
    rw [same, ← reached]
    rfl
  | pass => cases own

/-- A move that is no step of the document is not seen in its share. -/
theorem share_perform_other (parted : workspace.Parted) (apart : move.Apart workspace)
    (none : ¬ (workspace.documentOf? move = some document ∧ workspace.canMake move = true)) :
    (workspace.perform move).share document = workspace.share document := by
  have altered {number : Nat} {operation : Session → Session}
      (alters : move.alteration? = some (number, operation)) (can : workspace.canMake move = true) :
      (workspace.perform move).share document = workspace.share document := by
    cases present : workspace.sessions[number]? with
    | none => exact share_perform_absent (Move.alteration?_session alters) present document
    | some session =>
      have foreign : session.document ≠ document := by
        intro named
        refine none ⟨?_, can⟩
        simp [documentOf?, Move.alteration?_session alters, present, named]
      rw [perform_alteration alters present]
      exact share_setSession_other present foreign
        ((Move.alteration?_visible alters).document session)
  -- A move that names its document and can always be made is one of another document.
  have foreign {other : DocumentId} (names : workspace.documentOf? move = some other)
      (can : workspace.canMake move = true) : other ≠ document := by
    rintro rfl
    exact none ⟨names, can⟩
  cases move with
  | openDocument host => exact share_openDocument_other parted (foreign rfl rfl)
  | adjustHost other adjust => exact share_adjustHost_other workspace (foreign rfl rfl) apart
  | edit other operation => exact share_edit_other parted (foreign rfl rfl) operation
  | report other change => exact share_documentChanged_other parted (foreign rfl rfl) change
  | send other request => exact share_send_other parted (foreign rfl rfl) request
  | forget other => exact share_forget_other workspace (foreign rfl rfl)
  | tell | sendBy | restoreCursor | deliver | arrive | endInbound | hangUp | cancel =>
    exact altered rfl rfl
  | activate other place language =>
    rcases share_activate_refused workspace other place language with
      refused | connects
    · exact refused document
    · exact share_activate_other parted (foreign rfl (canMake_activate.mpr connects)) place language
  | act number actor =>
    cases acted : workspace.act number actor with
    | none => simp only [perform, acted, Option.getD_none]
    | some next =>
      obtain ⟨session, present, -⟩ := act_acted acted
      have elsewhere : session.document ≠ document := by
        intro named
        refine none ⟨?_, ?_⟩
        · simp [documentOf?, Move.session?, present, named]
        · simp [canMake, acted]
      simp only [perform, acted, Option.getD_some]
      exact share_act_other parted present elsewhere acted
  | pass => exact share_eq rfl rfl rfl rfl rfl rfl

/-- Every move is seen in the share of a document as a step of this document, or not at all. -/
theorem share_perform (parted : workspace.Parted) (patient : workspace.Patient)
    (apart : move.Apart workspace) (document : DocumentId) :
    (workspace.perform move).share document =
      (workspace.ownStep? document move).toList.foldl after (workspace.share document) := by
  unfold ownStep?
  split
  · next own => exact share_perform_own parted patient apart own.1 own.2
  · next other => exact share_perform_other parted apart other

/-- The share of a document after a run comes of the document's own steps alone. -/
theorem share_run (parted : workspace.Parted) (patient : workspace.Patient) {moves : List Move}
    (apart : workspace.ApartRun moves) (document : DocumentId) :
    (workspace.run moves).share document =
      (workspace.ownSteps document moves).foldl after (workspace.share document) := by
  induction moves generalizing workspace with
  | nil => rfl
  | cons move rest inductionHypothesis =>
    rw [ownSteps, List.foldl_append, ← share_perform parted patient apart.1 document]
    exact inductionHypothesis (parted.perform apart.1) (patient.perform parted.numbered move) apart.2

/-- A run of moves that are apart leaves a workspace parted. -/
theorem Parted.run (parted : workspace.Parted) {moves : List Move}
    (apart : workspace.ApartRun moves) : (workspace.run moves).Parted := by
  induction moves generalizing workspace with
  | nil => exact parted
  | cons move rest inductionHypothesis => exact inductionHypothesis (parted.perform apart.1) apart.2

/-! ## Tasks that are due by themselves -/

/-- The task that a step is, if an actor takes it. -/
def Step.task? : Step → Option (Nat × Actor)
  | ⟨.act number actor, none⟩ => some (number, actor)
  | _ => none

/-- The tasks of a document keep to a rule: while one is due, it is the document's next step, and in
the end none is due. -/
def follows (rule : Workspace → Option (Nat × Actor)) : Workspace → List Step → Bool
  | shared, [] => (rule shared).isNone
  | shared, step :: rest =>
    ((rule shared).all fun due => decide (step.task? = some due)) &&
      follows rule (shared.after step) rest

/-- The steps of a document that are given from outside: those taken while no task is due. -/
def given (rule : Workspace → Option (Nat × Actor)) : Workspace → List Step → List Step
  | _, [] => []
  | shared, step :: rest =>
    (if (rule shared).isNone then [step] else []) ++ given rule (shared.after step) rest

/-- A step that is a task is this task. -/
theorem Step.eq_of_task? {step : Step} {due : Nat × Actor} (task : step.task? = some due) :
    step = ⟨.act due.1 due.2, none⟩ := by
  obtain ⟨move, line⟩ := step
  cases move <;> cases line <;> cases task
  rfl

/-- A rule and what is given from outside determine all steps: while a task is due it comes next, and
else what is given. -/
theorem follows_unique {rule : Workspace → Option (Nat × Actor)} {shared : Workspace}
    {first second : List Step} (firstFollows : follows rule shared first = true)
    (secondFollows : follows rule shared second = true)
    (same : given rule shared first = given rule shared second) : first = second := by
  induction first generalizing shared second with
  | nil =>
    cases second with
    | nil => rfl
    | cons step rest =>
      simp only [given, show (rule shared).isNone = true from firstFollows] at same
      cases same
  | cons step rest inductionHypothesis =>
    cases second with
    | nil =>
      simp only [given, show (rule shared).isNone = true from secondFollows] at same
      cases same
    | cons other others =>
      simp only [follows, Bool.and_eq_true] at firstFollows secondFollows
      simp only [given] at same
      cases due : rule shared with
      | none =>
        simp only [due, Option.isNone_none, if_true, List.singleton_append, List.cons.injEq] at same
        obtain ⟨rfl, later⟩ := same
        rw [inductionHypothesis firstFollows.2 secondFollows.2 later]
      | some task =>
        simp only [due, Option.all_some, decide_eq_true_eq] at firstFollows secondFollows
        simp only [due, Option.isNone_some, Bool.false_eq_true, if_false, List.nil_append] at same
        obtain rfl := (Step.eq_of_task? firstFollows.1).trans
          (Step.eq_of_task? secondFollows.1).symm
        rw [inductionHypothesis firstFollows.2 secondFollows.2 same]

/-! ## What is displayed of a document -/

/-- What the user and the engine get to see of a document. -/
@[ext]
structure Display where
  /-- Text, cursor and anchor in each host of the document, with the errors shown there; the latest
      host comes last. -/
  hosts : List (Buffer × List Fault)
  /-- The snapshot of the session registered for the document: its language, whether it is locked, and
      the state of completion. -/
  snapshot : Option (Text × Bool × Completion)
  /-- The bytes received on each connection of the document, and whether its end has been read. -/
  received : List (Bytes × Bool)

/-- What is displayed of a document in a workspace. -/
def display (document : DocumentId) (workspace : Workspace) : Display where
  hosts := (entriesOf Host.document document workspace.hosts).map fun host =>
    (host.buffer, host.shown)
  snapshot := ((workspace.registered? document).bind (workspace.sessions[·]?)).map fun session =>
    (session.language, session.locked, session.completion)
  received := (entriesOf Session.document document workspace.sessions).map fun session =>
    (session.outlet.sink.written, session.outlet.sink.endSeen)

/-- The snapshot of a document can be read off its share. -/
theorem display_snapshot (parted : workspace.Parted) (document : DocumentId) :
    (workspace.display document).snapshot =
      (((workspace.share document).registered? document).bind
        ((workspace.share document).sessions[·]?)).map fun session =>
          (session.language, session.locked, session.completion) := by
  rw [share_registered]
  cases registered : workspace.registered? document with
  | none => simp [display, registered]
  | some number =>
    obtain ⟨session, present, own⟩ := parted.register document number registered
    simp [display, registered, present, share_session present own, seen, Session.seenAt]

/-- What is displayed of a document depends on its share alone. -/
theorem display_eq_of_share {other : Workspace} (parted : workspace.Parted)
    (otherParted : other.Parted) (same : workspace.share document = other.share document) :
    workspace.display document = other.display document := by
  have received : ∀ workspace : Workspace, (workspace.display document).received =
      (workspace.share document).sessions.map fun session =>
        (session.outlet.sink.written, session.outlet.sink.endSeen) := by
    intro workspace
    simp only [display, share, List.map_map]
    rfl
  have hosts : (workspace.display document).hosts = (other.display document).hosts :=
    congrArg (fun shared => shared.hosts.map fun host => (host.buffer, host.shown)) same
  have snapshot : (workspace.display document).snapshot = (other.display document).snapshot := by
    rw [display_snapshot parted, same, ← display_snapshot otherParted]
  refine Display.ext hosts snapshot ?_
  rw [received, same, ← received]

/-- Documents do not interfere. Take two runs of a workspace in which no documents are mixed and
replies are awaited as long as it takes. If the tasks of a document keep to the same rule in both of
them, and both have the same steps of the document given from outside, in the same order and with the
same connections, then the same is displayed of the document after both. What happens to other
documents in between, and when, makes no difference: other sessions may hold their locks during a
slow edit, fail, or be closed, and even the numbers of hosts and sessions may differ.

The rule may be any that goes by the share of the document. If it never calls for a task, all the
document's steps count as given; if it calls for every task that need not wait for the host
(`settling`), what is given is what the user, the editor and the engine do and the moments at which
slow edits come to an end. -/
theorem documents_apart (orderly : workspace.Orderly) (document : DocumentId)
    (rule : Workspace → Option (Nat × Actor)) {first second : List Move}
    (firstApart : workspace.ApartRun first) (secondApart : workspace.ApartRun second)
    (firstFollows : follows rule (workspace.share document) (workspace.ownSteps document first) = true)
    (secondFollows :
      follows rule (workspace.share document) (workspace.ownSteps document second) = true)
    (same : given rule (workspace.share document) (workspace.ownSteps document first) =
      given rule (workspace.share document) (workspace.ownSteps document second)) :
    (workspace.run first).display document = (workspace.run second).display document := by
  obtain ⟨parted, patient⟩ := orderly.parted
  have steps := follows_unique firstFollows secondFollows same
  refine display_eq_of_share (parted.run firstApart) (parted.run secondApart) ?_
  rw [share_run parted patient firstApart, share_run parted patient secondApart, steps]

/-- Whether the host of a session is at work on an edit that takes time. -/
def awaitsHost (shared : Workspace) (number : Nat) : Bool :=
  match shared.sessions[number]? with
  | none => false
  | some session =>
    match session.worker with
    | .editing _ _ _ => (shared.hosts[session.host]?.map Host.editDelay) != some 0
    | _ => false

/-- The rule by which a document settles: the first task that can be taken is due, unless it has to
wait for the host. -/
def settling (shared : Workspace) : Option (Nat × Actor) :=
  ((List.range shared.sessions.length).flatMap fun number =>
      [(number, .intake), (number, .outlet), (number, .worker)]).find? fun (number, actor) =>
    (shared.act number actor).isSome && !(actor = .worker && shared.awaitsHost number)

/-- A client with two open documents, the second of which takes its time for an edit, and with two
connections to be had. -/
def twoDocuments : Workspace :=
  (start { Settings.defaults with replyTimeoutMs := 0 } [] [.fresh, .fresh]
      (.noSession ⟨['d']⟩)).run
    [.openDocument (.ofBuffer ⟨['d']⟩ .direct .empty true),
      .openDocument { Host.ofBuffer ⟨['e']⟩ .ordinary .empty true with delay := 5 }]

/-- The first document is connected, a character is typed in it, and its engine expands the
character. Its session has the number `number`, and other things happen in between. -/
def expandedBeside (number : Nat) (early late : List Move) : List Move :=
  early ++
    [.activate ⟨['d']⟩ 0 ['c'], .act number .intake, .act number .outlet, .act number .worker,
      .act number .worker, .act number .worker, .edit ⟨['d']⟩ (.type 'p'), .act number .outlet,
      .act number .worker, .act number .worker] ++ late ++
    [.deliver number [113, 114, 0], .act number .intake, .act number .intake, .act number .intake,
      .act number .intake, .act number .worker, .act number .worker, .act number .worker,
      .act number .worker, .act number .worker]

/-- The second document is connected before the first one, and holds its lock during a slow edit. -/
def besideSlowEdit : List Move :=
  expandedBeside 1 [.activate ⟨['e']⟩ 1 ['c'], .deliver 0 [115, 0], .act 0 .worker]
    (List.replicate 4 (.act 0 .intake) ++ [.act 0 .worker, .act 0 .worker, .pass 3])

/-- The second document is connected after the first one, and its connection fails. -/
def besideFailure : List Move :=
  expandedBeside 0 [.edit ⟨['e']⟩ (.type 'z')]
    [.activate ⟨['e']⟩ 1 ['c'], .hangUp 1, .act 1 .outlet, .forget ⟨['e']⟩, .cancel 1, .pass 7]

/-- Whether two steps are seen to be the same. Only connecting, editing and delivering are looked at,
since what adjusts a host is a function. -/
def Step.agrees : Step → Step → Bool
  | ⟨.activate document host language, line⟩, ⟨.activate other place tongue, second⟩ =>
    document = other && host = place && language = tongue && line = second
  | ⟨.edit document operation, line⟩, ⟨.edit other second, rest⟩ =>
    document = other && operation = second && line = rest
  | ⟨.deliver connection content, line⟩, ⟨.deliver other second, rest⟩ =>
    connection = other && content = second && line = rest
  | _, _ => false

/-- Steps that are seen to be the same are. -/
theorem Step.eq_of_agrees {step other : Step} (same : step.agrees other = true) :
    step = other := by
  unfold Step.agrees at same
  split at same
  case h_4 => cases same
  all_goals simpa [and_assoc] using same

/-- Lists of steps that are seen to be the same are. -/
theorem Step.eq_of_isEqv {first second : List Step}
    (same : first.isEqv second Step.agrees = true) : first = second := by
  induction first generalizing second with
  | nil =>
    cases second with
    | nil => rfl
    | cons => cases same
  | cons step rest inductionHypothesis =>
    cases second with
    | nil => cases same
    | cons other others =>
      simp only [List.isEqv, Bool.and_eq_true] at same
      rw [Step.eq_of_agrees same.1, inductionHypothesis same.2]

/-- What is given from outside to the first document is the same in both runs, and so is what is
displayed of it, though its session has another number and the second document holds a lock in one
run and has lost its connection in the other one. -/
theorem expanded_beside_others :
    let outside : List Step := [⟨.activate ⟨['d']⟩ 0 ['c'], some .fresh⟩,
      ⟨.edit ⟨['d']⟩ (.type 'p'), none⟩, ⟨.deliver 0 [113, 114, 0], none⟩]
    let shared := twoDocuments.share ⟨['d']⟩
    twoDocuments.Orderly ∧ twoDocuments.ApartRun besideSlowEdit ∧
      twoDocuments.ApartRun besideFailure ∧
      follows settling shared (twoDocuments.ownSteps ⟨['d']⟩ besideSlowEdit) = true ∧
      follows settling shared (twoDocuments.ownSteps ⟨['d']⟩ besideFailure) = true ∧
      given settling shared (twoDocuments.ownSteps ⟨['d']⟩ besideSlowEdit) = outside ∧
      given settling shared (twoDocuments.ownSteps ⟨['d']⟩ besideFailure) = outside ∧
      (twoDocuments.run besideSlowEdit).display ⟨['d']⟩ =
        (twoDocuments.run besideFailure).display ⟨['d']⟩ ∧
      ((twoDocuments.run besideFailure).display ⟨['d']⟩).hosts =
        [(⟨['q', 'r'], 2, none⟩, [])] := by
  intro outside shared
  have orderly : twoDocuments.Orderly := by
    refine ⟨_, _, _, _, _, ?_, ?_, rfl⟩
    · rfl
    · exact ⟨trivial, trivial, trivial⟩
  have first : ∃ host, twoDocuments.hosts[0]? = some host ∧ host.document = ⟨['d']⟩ :=
    ⟨_, rfl, rfl⟩
  have second : ∃ host, twoDocuments.hosts[1]? = some host ∧ host.document = ⟨['e']⟩ :=
    ⟨_, rfl, rfl⟩
  have slowApart : twoDocuments.ApartRun besideSlowEdit :=
    apartRun_of_forall (by simp [besideSlowEdit, expandedBeside, Move.Apart, first, second])
  have failureApart : twoDocuments.ApartRun besideFailure :=
    apartRun_of_forall (by simp [besideFailure, expandedBeside, Move.Apart, first, second])
  have slowFollows :
      follows settling shared (twoDocuments.ownSteps ⟨['d']⟩ besideSlowEdit) = true := by
    decide +kernel
  have failureFollows :
      follows settling shared (twoDocuments.ownSteps ⟨['d']⟩ besideFailure) = true := by
    decide +kernel
  have slowGiven :
      given settling shared (twoDocuments.ownSteps ⟨['d']⟩ besideSlowEdit) = outside :=
    Step.eq_of_isEqv (by decide +kernel)
  have failureGiven :
      given settling shared (twoDocuments.ownSteps ⟨['d']⟩ besideFailure) = outside :=
    Step.eq_of_isEqv (by decide +kernel)
  exact ⟨orderly, slowApart, failureApart, slowFollows, failureFollows, slowGiven, failureGiven,
    documents_apart orderly ⟨['d']⟩ settling slowApart failureApart slowFollows failureFollows
      (slowGiven.trans failureGiven.symm), by decide +kernel⟩

end Typeahead.Workspace

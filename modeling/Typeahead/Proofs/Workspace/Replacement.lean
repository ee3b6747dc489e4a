import Typeahead.Proofs.Engine.Requests
import Typeahead.Proofs.Workspace.Lasting
import Typeahead.Proofs.Workspace.Transcript

/-!
# Sessions that have been replaced

Connecting a document again puts a new session in the place of the one that it had. The old
one is told to stop, but a reply that it is in the middle of is applied to the end, and the
register routes the edits of that reply to the new session. That session is not locked by
them, so it takes them for the user's.

`replaced_edits_unheard_iff` says when the engine of the new session gets to read nothing of
this: every edit by the worker of another session has to come while the new session is
itself applying a reply, or has to be one that amounts to no request. A session that is not
in the middle of a reply when it is replaced makes no further edit at all.
-/

namespace Typeahead

/-- A session that was told to stop and is not in the middle of a reply. -/
def Session.Retired (session : Session) : Prop :=
  session.cancelled = true ∧ session.worker.isApplying = false

/-- A retired session begins no reply any more. Its worker may still wake, to find that it has been
told to stop. -/
theorem Session.retired_lasting : Session.Lasting Session.Retired where
  send session request retired := by
    unfold Session.send
    split <;> exact retired
  inbound _ _ retired := retired
  outbound _ _ retired := retired
  cancel _ retired := ⟨rfl, retired.2⟩
  work session host now next hostAfter change retired stepped := by
    obtain ⟨cancelled, resting⟩ := retired
    cases Session.stepWorker_cases stepped with
    | waits | stops | notices | expires => exact ⟨cancelled, rfl⟩
    | takes stage active => exact absurd (cancelled.symm.trans active) Bool.noConfusion
    | tells stage | asks stage | edits stage | passesOver stage | ends stage =>
      rw [stage] at resting
      cases resting

/-- A session does not answer to a call: it is applying a reply, or the change amounts to no
request. -/
def Call.Unheard : Call → Prop
  | .send _ => False
  | .hear change applying => applying = true ∨ change.removed = 0 ∧
      ∀ character, change.text = [character] → character.toNat < Request.reservedBelow

/-- The calls that a session does not answer to are those that amount to no request. -/
theorem Call.unheard_iff (call : Call) : call.Unheard ↔ call.requests = [] := by
  cases call with
  | send request => simp [Unheard, requests]
  | hear change applying =>
    cases applying with
    | true => simp [Unheard, requests]
    | false =>
      obtain ⟨offset, removed, text⟩ := change
      cases text with
      | nil => simp [Unheard, requests, Session.owed]
      | cons character rest => cases rest <;> simp [Unheard, requests, Session.owed]

instance (call : Call) : Decidable call.Unheard :=
  decidable_of_iff (call.requests = []) call.unheard_iff.symm

namespace Workspace

/-- Whether a move is a step of the applying worker of one of these sessions. -/
def Move.isWorkOf (which : Nat → Bool) : Move → Bool
  | .act number .worker => which number
  | _ => false

/-- What some of the moves of a run call a session for, in order. -/
def logWhere (which : Move → Bool) (number : Nat) : Workspace → List Move → List Call
  | _, [] => []
  | workspace, move :: rest =>
    (if which move then workspace.calls number move else []) ++
      logWhere which number (workspace.perform move) rest

/-- The bytes of a run are those of some of its moves and those of the others. -/
theorem log_length (which : Move → Bool) (number : Nat) (workspace : Workspace)
    (moves : List Move) :
    (Request.encodeAll (Call.owed (workspace.log number moves))).length =
      (Request.encodeAll (Call.owed (workspace.logWhere which number moves))).length +
        (Request.encodeAll
          (Call.owed (workspace.logWhere (fun move => !which move) number moves))).length := by
  induction moves generalizing workspace with
  | nil => rfl
  | cons move rest inductionHypothesis =>
    have later := inductionHypothesis (workspace.perform move)
    simp only [Call.owed, Request.encodeAll] at later
    simp only [log, logWhere, Call.owed, Request.encodeAll, List.flatMap_append, List.length_append,
      later]
    by_cases chosen : which move = true <;> simp [chosen] <;> omega

/-- Moves that call for no request can be left out. -/
theorem owed_log (which : Move → Bool) (number : Nat) (workspace : Workspace) (moves : List Move)
    (unheard : Call.owed (workspace.logWhere which number moves) = []) :
    Call.owed (workspace.log number moves) =
      Call.owed (workspace.logWhere (fun move => !which move) number moves) := by
  induction moves generalizing workspace with
  | nil => rfl
  | cons move rest inductionHypothesis =>
    simp only [logWhere, Call.owed, List.flatMap_append, List.append_eq_nil_iff] at unheard
    have later := inductionHypothesis (workspace.perform move) unheard.2
    simp only [Call.owed] at later
    simp only [log, logWhere, Call.owed, List.flatMap_append, later]
    by_cases chosen : which move = true
    · simpa [chosen] using unheard.1
    · simp [chosen]

/-- The bytes of a run are those of its other moves exactly if the session answers to no call of
these moves. -/
theorem encodeAll_log_iff (which : Move → Bool) (number : Nat) (workspace : Workspace)
    (moves : List Move) :
    Request.encodeAll (Call.owed (workspace.log number moves)) =
        Request.encodeAll
          (Call.owed (workspace.logWhere (fun move => !which move) number moves)) ↔
      ∀ call ∈ workspace.logWhere which number moves, call.Unheard := by
  have nothing : Call.owed (workspace.logWhere which number moves) = [] ↔
      ∀ call ∈ workspace.logWhere which number moves, call.Unheard := by
    simp only [Call.owed, List.flatMap_eq_nil_iff, Call.unheard_iff]
  rw [← nothing]
  constructor
  · intro same
    have sizes := log_length which number workspace moves
    rw [same] at sizes
    have empty : Request.encodeAll (Call.owed (workspace.logWhere which number moves)) = [] :=
      List.eq_nil_of_length_eq_zero (by omega)
    apply List.eq_nil_iff_forall_not_mem.mpr
    intro request member
    exact request.encode_ne_nil (List.flatMap_eq_nil_iff.mp empty request member)
  · intro unheard
    rw [owed_log which number workspace moves unheard]

/-- A worker that is not in the middle of a reply reports no edit. -/
theorem reported?_of_resting {workspace : Workspace} {number : Nat} {session : Session}
    (present : workspace.sessions[number]? = some session)
    (resting : session.worker.isApplying = false) :
    workspace.reported? (.act number .worker) = none := by
  cases hosted : workspace.hosts[session.host]? with
  | none => simp [reported?, present, hosted]
  | some host =>
    cases stepped : session.stepWorker host workspace.clock with
    | none => simp [reported?, present, hosted, stepped]
    | some result =>
      obtain ⟨after, hostAfter, change⟩ := result
      rw [reported?_of_worker present hosted stepped]
      cases change with
      | none => simp [Host.reported?]
      | some change =>
        have applying := (Session.stepWorker_applying stepped).1
        exact absurd (resting.symm.trans applying) Bool.false_ne_true

/-- A retired session calls no session for anything. -/
theorem logWhere_retired (number : Nat) {other : Nat} {workspace : Workspace} (moves : List Move)
    (retired : workspace.Holds other Session.Retired) :
    workspace.logWhere (Move.isWorkOf (· == other)) number moves = [] := by
  induction moves generalizing workspace with
  | nil => rfl
  | cons move rest inductionHypothesis =>
    rw [logWhere, inductionHypothesis (retired.perform Session.retired_lasting move),
      List.append_nil]
    split
    · next chosen =>
      obtain ⟨session, present, -, resting⟩ := retired
      have work : move = .act other .worker := by
        unfold Move.isWorkOf at chosen
        split at chosen
        · rw [beq_iff_eq.mp chosen]
        · cases chosen
      cases heard : workspace.sessions[number]? with
      | none => simp [calls, heard]
      | some hearing =>
        simp only [work, calls, heard, reported?_of_resting present resting]
        rfl
    · rfl

/-- The session whose place is taken is retired, unless it is in the middle of a reply. -/
theorem activate_retires {workspace : Workspace} {document : DocumentId} {previous : Nat}
    {session : Session} {language : Text} {line : Line} {lines : List Line} (host : Nat)
    (usable : Request.start? language = .ok (.start language))
    (given : workspace.lines = line :: lines)
    (registered : workspace.registered? document = some previous)
    (present : workspace.sessions[previous]? = some session)
    (resting : session.worker.isApplying = false) :
    (workspace.activate document host language).1.Holds previous Session.Retired := by
  have inside := (List.getElem?_eq_some_iff.mp present).1
  have sent : (Session.start document language host workspace.settings
      (line.intake workspace.settings) line.sink).send (.start language) =
      (workspace.opened document host language line, .ok ()) := rfl
  refine ⟨session.cancel, ?_, rfl, resting⟩
  simp [activate, usable, connect, given, sent, registered, cancel, register, attach,
    List.getElem?_append_left inside, present]

/-- A document that has a session is connected again. From then on the engine of the new session
reads the selection of the language and what the new session is called for by anything but the
workers of other sessions, exactly if none of the edits by those workers is heard: each comes while
the new session is applying a reply itself, or takes nothing away and puts in no single character
that can be sent. A previous session that is not in the middle of a reply when it is replaced
makes no edit of which the new one could hear.

The new session's bytes are those of all its calls, and the calls that are owed a request make
them longer. -/
theorem replaced_edits_unheard_iff (before : Workspace) (document : DocumentId) (host : Nat)
    (language : Text) (previous : Nat) (later : List Move) (reached : before.Reached)
    (ready : before.Ready language) (registered : before.registered? document = some previous)
    (spare : ∀ move ∈ later, move.Spares before.sessions.length document) :
    let number := before.sessions.length
    let connected := before.perform (.activate document host language)
    let elsewhere := Move.isWorkOf (· != number)
    let requests := Request.start language ::
      Call.owed (connected.logWhere (fun move => !elsewhere move) number later)
    let echoes := connected.logWhere elsewhere number later
    (∃ session, (connected.run later).sessions[number]? = some session ∧
      (session.outlet.sink.written ++ Request.encodeAll session.outlet.queue =
          Request.encodeAll requests ↔ ∀ call ∈ echoes, call.Unheard) ∧
      (session.stepOutlet = none →
        (session.outlet.sink.written = Request.encodeAll requests ↔
          ∀ call ∈ echoes, call.Unheard))) ∧
    ∀ replaced, before.sessions[previous]? = some replaced → replaced.worker.isApplying = false →
      connected.logWhere (Move.isWorkOf (· == previous)) number later = [] := by
  intro number connected elsewhere requests echoes
  obtain ⟨settings, directory, supply, refusal, earlier, rfl⟩ := reached
  have numbered := (numbered_start settings directory supply refusal).run earlier
  obtain ⟨first, opened⟩ := serves_connected numbered ready document host
  obtain ⟨session, serves⟩ := opened.run later spare
  have bytes : ∀ owed, Request.encodeAll (.start language :: owed) =
      Request.encode (.start language) ++ Request.encodeAll owed := fun _ => rfl
  have unheard := encodeAll_log_iff elsewhere number connected later
  refine ⟨⟨session, serves.present, ?_, fun idle => ?_⟩, fun replaced present resting => ?_⟩
  · rw [serves.carries.stream, bytes, List.append_cancel_left_eq]
    exact unheard
  · rw [serves.carries.written_of_idle idle, bytes, List.append_cancel_left_eq]
    exact unheard
  · obtain ⟨usable, line, lines, given, -⟩ := ready
    exact logWhere_retired number later
      (activate_retires host usable given registered present resting)

/-- A client whose document has a session, to which the engine has sent an expansion of the
character typed. -/
def expansionSent : List Move :=
  [.openDocument (.ofBuffer ⟨['d']⟩ .ordinary .empty true), .activate ⟨['d']⟩ 0 ['c'],
    .edit ⟨['d']⟩ (.type 'p'), .deliver 0 [112, 114, 0], .act 0 .intake, .act 0 .intake,
    .act 0 .intake, .act 0 .intake]

/-- The worker takes the expansion and asks the host for the edit. -/
def expansionBegun : List Move :=
  expansionSent ++ [.act 0 .worker, .act 0 .worker, .act 0 .worker]

/-- The workspace after these moves, with two connections to be had at the start. -/
def twoConnections (moves : List Move) : Workspace :=
  (start .defaults [] [.fresh, .fresh] (.noSession ⟨['d']⟩)).run moves

/-- A session replaced before it takes the expansion applies nothing, and the new engine reads the
language and the character typed next. -/
theorem replaced_at_rest_unheard :
    let before := twoConnections expansionSent
    let later := [.act 0 .worker, .act 0 .worker, .edit ⟨['d']⟩ (.type 'a'), .act 1 .outlet,
      .act 1 .outlet]
    before.Reached ∧ before.Ready ['c'] ∧ before.registered? ⟨['d']⟩ = some 0 ∧
      (∀ move ∈ later, move.Spares 1 ⟨['d']⟩) ∧
      ∃ session, ((before.perform (.activate ⟨['d']⟩ 0 ['c'])).run later).sessions[1]? =
          some session ∧
        session.outlet.sink.written = [5, 99, 0, 97, 0] := by
  intro before later
  have reached : before.Reached := ⟨_, _, _, _, _, rfl⟩
  have ready : before.Ready ['c'] := ⟨rfl, .fresh, [], by decide, rfl⟩
  have registered : before.registered? ⟨['d']⟩ = some 0 := by decide
  have spare : ∀ move ∈ later, move.Spares 1 ⟨['d']⟩ := by simp [later, Move.Spares]
  obtain ⟨⟨session, present, -, written⟩, -⟩ := replaced_edits_unheard_iff before ⟨['d']⟩ 0 ['c'] 0
    later reached ready registered spare
  have waits : (((before.perform (.activate ⟨['d']⟩ 0 ['c'])).run later).sessions[1]?.bind
      Session.stepOutlet).isNone := by decide
  have last : ((before.perform (.activate ⟨['d']⟩ 0 ['c'])).run later).sessions[1]? =
      some session := present
  rw [last] at waits
  have unheard := (written (Option.isNone_iff_eq_none.mp waits)).mpr (by decide)
  exact ⟨reached, ready, registered, spare, session, last, unheard.trans (by decide)⟩

/-- An expansion that the replaced session was in the middle of takes the typed character away. The
new session hears of it as of a change by the user and sends a revert. -/
theorem replaced_edit_becomes_revert :
    ¬ ∀ (before : Workspace) (document : DocumentId) (host : Nat) (language : Text)
      (previous : Nat) (later : List Move), before.Reached → before.Ready language →
      before.registered? document = some previous →
      (∀ move ∈ later, move.Spares before.sessions.length document) →
      ∀ session,
        ((before.perform (.activate document host language)).run later).sessions[before.sessions.length]? =
          some session →
        session.outlet.sink.written ++ Request.encodeAll session.outlet.queue =
          Request.encodeAll (.start language :: Call.owed
            ((before.perform (.activate document host language)).logWhere
              (fun move => !Move.isWorkOf (· != before.sessions.length) move)
              before.sessions.length later)) := by
  intro ownEditsUnheard
  have reads := ownEditsUnheard (twoConnections expansionBegun) ⟨['d']⟩ 0 ['c'] 0 [.act 0 .worker]
    ⟨_, _, _, _, _, rfl⟩ ⟨rfl, .fresh, [], by decide, rfl⟩ (by decide) (by simp [Move.Spares])
  have sends : ((((twoConnections expansionBegun).perform (.activate ⟨['d']⟩ 0 ['c'])).run
      [.act 0 .worker]).sessions[1]?.map fun session =>
        session.outlet.sink.written ++ Request.encodeAll session.outlet.queue) =
      some [5, 99, 0, 3] := by decide
  obtain ⟨session, present, bytes⟩ := Option.map_eq_some_iff.mp sends
  exact absurd (bytes.symm.trans (reads session present)) (by decide)

end Workspace

end Typeahead

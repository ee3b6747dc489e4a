import Typeahead.Proofs.Workspace.AtHand
import Typeahead.Proofs.Workspace.Hosting

/-!
# Where inserted text goes

A full pattern and an expansion put a text into the document, and the span begins behind that
text from then on. Where this is, the completion reckons from offsets alone, while the host
clamps the edit to the document as it is when the edit is made. The two agree exactly if the
insertion point is not past the end of that document: `inserted_text_iff`. The user can bring
it there by deleting; an expansion whose span has come to begin past the character is skipped,
but no such heed is paid to a span that begins past the end of the document.
-/

namespace Typeahead

namespace Buffer

/-- A text stands right before an offset. -/
def Reads (buffer : Buffer) (stop : Nat) (written : Text) : Prop :=
  stop ≤ buffer.length ∧ (buffer.text.take stop).drop (stop - written.length) = written

/-- An operation that puts a text at an offset, in front of what is there or in its place. -/
inductive Operation.Puts (point : Nat) (inserted : Text) : Operation → Prop where
  | inserts : Puts point inserted (.insert point inserted)
  | replaces {stop : Nat} (upright : point ≤ stop) :
      Puts point inserted (.replace point stop inserted)

/-- Text that takes the place of a range stands before the offset behind it, as reckoned from where
the range begins, exactly if the range does not begin past the end of the text. -/
theorem reads_put_iff (buffer : Buffer) {start stop : Nat} (upright : start ≤ stop)
    (inserted : Text) (anchor : Option Nat) :
    (buffer.put (buffer.clamp start stop inserted) anchor).Reads (start + inserted.length)
        inserted ↔
      start ≤ buffer.length := by
  have behind : (buffer.put (buffer.clamp start stop inserted) anchor).length =
      min start buffer.length + inserted.length + (buffer.length - min stop buffer.length) := by
    simp only [put, clamp, Change.applyTo, length, List.length_append, List.length_take,
      List.length_drop]
    omega
  constructor
  · rintro ⟨within, -⟩
    rw [behind] at within
    omega
  · intro inside
    refine ⟨by rw [behind]; omega, ?_⟩
    have front : (buffer.text.take start).length = start := List.length_take_of_le inside
    have written : (buffer.text.take start ++ inserted).length = start + inserted.length := by
      rw [List.length_append, front]
    simp only [put, clamp, Change.applyTo, Nat.min_eq_left inside, Nat.add_sub_cancel]
    rw [← written, List.take_left, List.drop_left' front]

/-- Text that an operation puts at an offset stands before the offset behind it exactly if it was not
put past the end. -/
theorem Operation.Puts.reads_iff {operation : Operation} {point : Nat} {inserted : Text}
    (puts : operation.Puts point inserted) (buffer : Buffer) :
    operation.Upright ∧
      ((buffer.after operation).Reads (point + inserted.length) inserted ↔
        point ≤ buffer.length) := by
  cases puts with
  | inserts =>
    have inserted := buffer.reads_put_iff (Nat.le_refl point) inserted none
    refine ⟨trivial, ?_⟩
    simpa [after, perform, perform.edited, splice_upright, Except.map] using inserted
  | replaces upright =>
    refine ⟨upright, ?_⟩
    simp only [after, perform_replace buffer upright]
    exact buffer.reads_put_iff upright inserted none

end Buffer

/-- The text that a reply puts into the document, unless it acknowledges a revert. -/
def Reply.inserted? : Reply → Option Text
  | .regexFull => some [' ']
  | .expanded text => some text
  | _ => none

namespace Completion

/-- Where a reply puts its text: at the character just typed if this has filled the pattern, and
where the span begins otherwise. -/
def insertionPoint (completion : Completion) (reply : Reply) (cursor : Nat) : Nat :=
  if reply = .regexFull ∧ completion.lastRequest = some .advance then cursor
  else completion.spanStart

/-- A reply brings an expansion for a span that begins past the character. -/
def Skips (completion : Completion) (reply : Reply) (cursor : Nat) : Prop :=
  (∃ text, reply = .expanded text) ∧ cursor + 1 < completion.spanStart

variable {completion : Completion} {reply : Reply} {cursor : Nat} {text : Text}

/-- A reply that brings text, and is not skipped, has the text put at the insertion point, and has
the span begin behind it. -/
theorem apply_inserts (keeps : ¬ completion.TakesBack reply) (brings : reply.inserted? = some text)
    (reaches : ¬ completion.Skips reply cursor) :
    (completion.apply reply cursor).1.spanStart =
        completion.insertionPoint reply cursor + text.length ∧
      ∃ operation, (completion.apply reply cursor).2.filterMap Effect.operation? = [operation] ∧
        operation.Puts (completion.insertionPoint reply cursor) text := by
  cases reply with
  | regexFull =>
    obtain rfl := Option.some.inj brings
    by_cases typed : completion.lastRequest = some .advance
    · simp only [Completion.apply, respond, closeRegex, insertionPoint, typed, if_true, moveSpan,
        and_self]
      exact ⟨rfl, _, rfl, .inserts⟩
    · simp only [Completion.apply, respond, closeRegex, insertionPoint, typed, if_false, and_false]
      exact ⟨rfl, _, rfl, .inserts⟩
  | expanded text =>
    obtain rfl := Option.some.inj brings
    have latest : completion.lastRequest ≠ some .revert :=
      fun reverting => keeps ⟨.inr ⟨text, rfl⟩, reverting⟩
    have upright : ¬ cursor + 1 < completion.spanStart := fun past => reaches ⟨⟨text, rfl⟩, past⟩
    simp only [Completion.apply, respond, latest, if_false, expand, upright, insertionPoint,
      reduceCtorEq, false_and]
    exact ⟨rfl, _, rfl, .replaces (Nat.le_of_not_lt upright)⟩
  | _ => cases brings

/-- A reply that is skipped asks for nothing and leaves span and history alone. -/
theorem apply_skips (keeps : ¬ completion.TakesBack reply) (skips : completion.Skips reply cursor) :
    (completion.apply reply cursor).1.spanStart = completion.spanStart ∧
      (completion.apply reply cursor).1.history = completion.history ∧
      (completion.apply reply cursor).2 = [] := by
  obtain ⟨⟨text, rfl⟩, past⟩ := skips
  have latest : completion.lastRequest ≠ some .revert :=
    fun reverting => keeps ⟨.inr ⟨text, rfl⟩, reverting⟩
  simp [Completion.apply, respond, latest, expand, past, expireWait]

end Completion

/-- The same host with the same text; its cursor may have moved, and it may have told the user
something. -/
structure Host.SameText (host other : Host) : Prop extends host.SameWays other where
  text : other.buffer.text = host.buffer.text

namespace Host.SameText

variable {host middle other : Host}

/-- Nothing has happened. -/
theorem refl (host : Host) : host.SameText host :=
  ⟨⟨rfl, rfl, rfl, rfl, rfl⟩, rfl⟩

/-- A host that is the same for a while, and then for another one, is the same. -/
theorem trans (first : host.SameText middle) (second : middle.SameText other) :
    host.SameText other :=
  ⟨⟨second.document.trans first.document, second.manner.trans first.manner,
    second.listening.trans first.listening, second.rejectsEdits.trans first.rejectsEdits,
    second.rejectsCursor.trans first.rejectsCursor⟩, second.text.trans first.text⟩

/-- The end of a reply takes the anchor away at most. -/
theorem replyApplied (host : Host) : host.SameText host.replyApplied := by
  unfold Host.replyApplied
  split <;> exact ⟨⟨rfl, rfl, rfl, rfl, rfl⟩, rfl⟩

end Host.SameText

namespace Session

variable {session next : Session} {host hostAfter : Host} {now : Nat} {change : Option Change}

/-- A step of a worker that awaits no edit whose time has come leaves the document alone, and what is
still to be done unless this is only the end of the reply. -/
theorem WorkerStep.undue (step : session.WorkerStep host now next hostAfter change)
    (undue : ∀ operation due effects, session.worker = .editing operation due effects →
      ¬ due ≤ now) :
    host.SameText hostAfter ∧
      (1 < session.worker.pending.length → next.worker.pending = session.worker.pending) := by
  cases step with
  | waits stage | stops stage | takes stage | notices stage | expires stage =>
    refine ⟨.refl host, fun unfinished => ?_⟩
    rw [stage] at unfinished
    cases unfinished
  | tells stage =>
    obtain ⟨ways, buffer⟩ := host.tell_sameWays _
    exact ⟨⟨ways, congrArg _ buffer⟩, fun _ => by rw [stage]; rfl⟩
  | asks stage edits =>
    refine ⟨.refl host, fun _ => ?_⟩
    simp [stage, Worker.pending, edits]
  | edits stage _ late | passesOver stage _ late => exact absurd late (undue _ _ _ stage)
  | ends stage =>
    refine ⟨.replyApplied host, fun unfinished => ?_⟩
    rw [stage] at unfinished
    exact absurd unfinished (Nat.lt_irrefl 1)

/-- Only a worker in the middle of a reply has something to do. -/
theorem pending_of_resting {worker : Worker} (resting : worker.isApplying = false) :
    worker.pending = [] := by
  cases worker with
  | turning | parked | finished => rfl
  | applying | editing => cases resting

end Session

namespace Workspace

variable {workspace : Workspace} {number place : Nat} {session : Session} {host : Host}
  {reply : Reply} {cursor : Nat} {text : Text} {operation : Buffer.Operation}

/-- A move is a step of a session's worker, or nothing happens to a host in it. -/
def Leaves (workspace : Workspace) (number place : Nat) (move : Move) : Prop :=
  move = .act number .worker ∨ (workspace.perform move).hosts[place]? = workspace.hosts[place]?

/-- In a run, nothing happens to a host apart from the steps of a session's worker. -/
def LeftTo (number place : Nat) : Workspace → List Move → Prop
  | _, [] => True
  | workspace, move :: rest =>
    workspace.Leaves number place move ∧ LeftTo number place (workspace.perform move) rest

/-- A move leaves the document of a session alone if its host is left to the session and no edit of
the worker is due, and then as much remains to be done if this is more than the end of the reply. -/
theorem perform_undue (present : workspace.sessions[number]? = some session)
    (hosted : workspace.hosts[session.host]? = some host) {move : Move}
    (undue : move = .act number .worker →
      ∀ operation, ¬ workspace.EditDue number session host operation) :
    (∃ hostAfter, (workspace.perform move).hosts[session.host]? = some hostAfter ∧
      (workspace.Leaves number session.host move → host.SameText hostAfter)) ∧
    (workspace.perform move).Holds number fun after =>
      1 < session.worker.pending.length → after.worker.pending = session.worker.pending := by
  by_cases own : move = .act number .worker
  · subst own
    cases stepped : session.stepWorker host workspace.clock with
    | none =>
      rw [perform_waiting present hosted stepped]
      exact ⟨⟨host, hosted, fun _ => .refl host⟩, session, present, fun _ => rfl⟩
    | some result =>
      obtain ⟨middle, hostAfter, change⟩ := result
      obtain ⟨hosts, after, there, still⟩ := perform_worker present hosted stepped
      obtain ⟨same, unfinished⟩ := (Session.stepWorker_cases stepped).undue
        fun operation due effects editing late =>
          undue rfl operation ⟨present, hosted, due, effects, editing, late⟩
      have inside := (List.getElem?_eq_some_iff.mp hosted).1
      exact ⟨⟨hostAfter, by simp [hosts, inside], fun _ => same⟩, after, there,
        fun more => by rw [still, unfinished more]⟩
  · obtain ⟨hostAfter, kept, -⟩ := perform_host hosted move
    obtain ⟨after, there, still⟩ := perform_stays present own
    refine ⟨⟨hostAfter, kept, ?_⟩, after, there, fun _ => by rw [still]⟩
    rintro (same | same)
    · exact absurd same own
    · rw [kept, hosted] at same
      rw [Option.some.inj same]
      exact .refl host

/-- When nothing is left to be done but the end of the reply, a document that is left to the session
stays as it is until the next reply. -/
theorem leftTo_settled (present : workspace.sessions[number]? = some session)
    (latched : session.Latched) (hosted : workspace.hosts[session.host]? = some host)
    (settled : session.worker.pending <:+ [.replyApplied]) {moves : List Move}
    (none : Exchange.replies (workspace.exchangeLog number moves) = [])
    (left : workspace.LeftTo number session.host moves) :
    ∃ hostAfter, (workspace.run moves).hosts[session.host]? = some hostAfter ∧
      host.SameText hostAfter := by
  induction moves generalizing workspace session host with
  | nil => exact ⟨host, hosted, .refl host⟩
  | cons move rest inductionHypothesis =>
    obtain ⟨own, left⟩ := left
    rw [exchangeLog, Exchange.replies_append, List.append_eq_nil_iff] at none
    obtain ⟨after, there, remains, latchedAfter⟩ := remains_perform present latched none.1
    -- An edit under way would be pending along with the end of the reply.
    have undue : ∀ operation, ¬ workspace.EditDue number session host operation := by
      rintro operation ⟨-, -, due, effects, editing, -⟩
      have short := settled.length_le
      rw [editing] at short
      simp [Worker.pending] at short
    obtain ⟨⟨middle, kept, same⟩, -⟩ := perform_undue present hosted fun _ => undue
    rw [← remains.place] at kept left
    obtain ⟨hostAfter, hostedAfter, sameAfter⟩ :=
      inductionHypothesis there latchedAfter kept (remains.pending.trans settled) none.2 left
    rw [remains.place] at hostedAfter
    exact ⟨hostAfter, hostedAfter, (same own).trans sameAfter⟩

/-- A worker with an edit to be made does not come to the end of the reply before its host has been
at the edit. Until then a document that is left to the session stays as it is. -/
theorem edit_comes_due (present : workspace.sessions[number]? = some session)
    (latched : session.Latched) (hosted : workspace.hosts[session.host]? = some host)
    (pending : session.worker.pending = [operation, .replyApplied]) {moves : List Move}
    (none : Exchange.replies (workspace.exchangeLog number moves) = [])
    (rests : (workspace.run moves).Holds number fun after => after.worker.isApplying = false) :
    ∃ meanwhile later awaiting making, moves = meanwhile ++ .act number .worker :: later ∧
      (workspace.run meanwhile).EditDue number awaiting making operation ∧
      (workspace.LeftTo number session.host meanwhile → host.SameText making) := by
  induction moves generalizing workspace session host with
  | nil =>
    obtain ⟨after, there, resting⟩ := rests
    obtain rfl : after = session := Option.some.inj (there.symm.trans present)
    rw [Session.pending_of_resting resting] at pending
    cases pending
  | cons move rest inductionHypothesis =>
    -- Either this is the step in question, or as much is pending after it as before.
    by_cases now : move = .act number .worker ∧
        ∃ operation, workspace.EditDue number session host operation
    · obtain ⟨rfl, due, editDue⟩ := now
      have same : due = operation := by
        obtain ⟨time, effects, editing, -⟩ := editDue.stage
        rw [editing] at pending
        exact (List.cons.inj pending).1
      exact ⟨[], rest, session, host, rfl, same ▸ editDue, fun _ => .refl host⟩
    · have undue : move = .act number .worker →
          ∀ operation, ¬ workspace.EditDue number session host operation :=
        fun own operation due => now ⟨own, operation, due⟩
      rw [exchangeLog, Exchange.replies_append, List.append_eq_nil_iff] at none
      obtain ⟨after, there, remains, latchedAfter⟩ := remains_perform present latched none.1
      obtain ⟨⟨middle, kept, same⟩, again, there', still⟩ := perform_undue present hosted undue
      obtain rfl : again = after := Option.some.inj (there'.symm.trans there)
      have unfinished := still (by rw [pending]; exact Nat.lt_succ_self 1)
      rw [← remains.place] at kept
      obtain ⟨meanwhile, later, awaiting, making, split, due, unchanged⟩ :=
        inductionHypothesis there latchedAfter kept (unfinished.trans pending) none.2 rests
      refine ⟨move :: meanwhile, later, awaiting, making, by rw [split]; rfl, due, ?_⟩
      rintro ⟨own, left⟩
      rw [← remains.place] at left
      exact (same own).trans (unchanged left)

/-- When the edit of a reply that puts a text is due and made, and the document is left to the session
afterwards, the text stands right before the offset behind it exactly if it was not put past the end
of the document. -/
theorem EditDue.inserted {point : Nat} (due : workspace.EditDue number session host operation)
    (latched : session.Latched) (pending : session.worker.pending = [operation, .replyApplied])
    (puts : operation.Puts point text)
    (accepts : host.manner = .ordinary → host.rejectsEdits = false) {later : List Move}
    (none : Exchange.replies (workspace.exchangeLog number (.act number .worker :: later)) = [])
    (left : (workspace.perform (.act number .worker)).LeftTo number session.host later) :
    ∃ hostAfter,
      (workspace.run (.act number .worker :: later)).hosts[session.host]? = some hostAfter ∧
      (hostAfter.buffer.Reads (point + text.length) text ↔ point ≤ host.buffer.length) := by
  obtain ⟨upright, reads⟩ := puts.reads_iff host.buffer
  have edited : host.editFor operation =
      .ok ({ host with buffer := host.buffer.after operation },
        host.buffer.change? operation) := by
    rw [Host.editFor_of_accepting accepts, Host.edit, Buffer.perform_upright _ upright]
    rfl
  obtain ⟨hosts, after, there, done⟩ := due.made edited
  rw [exchangeLog, Exchange.replies_append, List.append_eq_nil_iff] at none
  obtain ⟨again, there', remains, latchedAfter⟩ := remains_perform due.present latched none.1
  obtain rfl : again = after := Option.some.inj (there'.symm.trans there)
  have inside := (List.getElem?_eq_some_iff.mp due.hosted).1
  have kept : (workspace.perform (.act number .worker)).hosts[again.host]? =
      some { host with buffer := host.buffer.after operation } := by
    simp [remains.place, hosts, inside]
  have settled : again.worker.pending <:+ [.replyApplied] := by
    rw [pending] at done
    rw [(List.cons.inj done).2]
  rw [← remains.place] at left
  obtain ⟨hostAfter, hostedAfter, same⟩ :=
    leftTo_settled there latchedAfter kept settled none.2 left
  refine ⟨hostAfter, remains.place ▸ hostedAfter, ?_⟩
  rw [← reads, Buffer.Reads, Buffer.length, same.text]
  rfl

/-- In a run in which such an edit is due at some moment, the same can be said of the end of the run. -/
theorem inserted_afterwards {point : Nat} {awaiting : Session} {making : Host}
    (present : workspace.sessions[number]? = some session) (latched : session.Latched)
    (pending : session.worker.pending = [operation, .replyApplied])
    (puts : operation.Puts point text) {meanwhile later : List Move}
    (due : (workspace.run meanwhile).EditDue number awaiting making operation)
    (accepts : making.manner = .ordinary → making.rejectsEdits = false)
    (none : Exchange.replies
      (workspace.exchangeLog number (meanwhile ++ .act number .worker :: later)) = [])
    (left : ((workspace.run meanwhile).perform (.act number .worker)).LeftTo number session.host
      later) :
    ∃ hostAfter,
      (workspace.run (meanwhile ++ .act number .worker :: later)).hosts[session.host]? =
        some hostAfter ∧
      (hostAfter.buffer.Reads (point + text.length) text ↔ point ≤ making.buffer.length) := by
  rw [exchangeLog_append, Exchange.replies_append, List.append_eq_nil_iff] at none
  obtain ⟨again, still, held, latchedAgain⟩ := remains_run present latched none.1
  obtain rfl : again = awaiting := Option.some.inj (still.symm.trans due.present)
  have unfinished : again.worker.pending = [operation, .replyApplied] := by
    obtain ⟨_, _, editing, -⟩ := due.stage
    refine (held.pending.eq_of_length_le ?_).trans pending
    rw [pending, editing]
    simp [Worker.pending]
  rw [run_append, ← held.place]
  exact due.inserted latchedAgain unfinished puts accepts none.2 (held.place ▸ left)

/-- A worker takes a reply that brings text and acknowledges no revert, and takes no other reply
before it is done with this one.

If the reply is skipped, document, span and history are as they were before, provided that nobody
else edits the document meanwhile.

Otherwise the moment comes when the host is at the edit; its document is still the one that it was
when the reply was taken if nobody else has edited it. If the host accepts the edit and nobody else
edits the document afterwards, the characters right before the span are the text in the end exactly
if the insertion point was not past the end of the document at that moment. -/
theorem inserted_text_iff (present : workspace.sessions[number]? = some session)
    (takes : session.taking? = some reply) (hosted : workspace.hosts[session.host]? = some host)
    (told : host.cursor = .ok cursor) (keeps : ¬ session.completion.TakesBack reply)
    (brings : reply.inserted? = some text) (moves : List Move)
    (none : Exchange.replies ((workspace.perform (.act number .worker)).exchangeLog number moves) =
      [])
    (rests : ((workspace.perform (.act number .worker)).run moves).Holds number fun after =>
      after.worker.isApplying = false) :
    let begun := workspace.perform (.act number .worker)
    (session.completion.Skips reply cursor → begun.LeftTo number session.host moves →
      ∃ after hostAfter, (begun.run moves).sessions[number]? = some after ∧
        (begun.run moves).hosts[session.host]? = some hostAfter ∧
        hostAfter.buffer.text = host.buffer.text ∧
        after.completion.spanStart = session.completion.spanStart ∧
        after.completion.history = session.completion.history) ∧
    (¬ session.completion.Skips reply cursor →
      ∃ meanwhile later awaiting making operation,
        moves = meanwhile ++ .act number .worker :: later ∧
        (begun.run meanwhile).EditDue number awaiting making operation ∧
        (begun.LeftTo number session.host meanwhile → host.SameText making) ∧
        ((making.manner = .ordinary → making.rejectsEdits = false) →
          ((begun.run meanwhile).perform (.act number .worker)).LeftTo number session.host later →
          ∃ after hostAfter, (begun.run moves).sessions[number]? = some after ∧
            (begun.run moves).hosts[session.host]? = some hostAfter ∧
            (hostAfter.buffer.Reads after.completion.spanStart text ↔
              session.completion.insertionPoint reply cursor ≤ making.buffer.length))) := by
  intro begun
  obtain ⟨hosts, taken, took⟩ := perform_takes present takes hosted told
  have hostedTaken : begun.hosts[taken.host]? = some host := by
    rw [took.place]
    exact (congrArg (·[session.host]?) hosts).trans hosted
  obtain ⟨after, there, remains, -⟩ := remains_run took.present took.latched none
  constructor
  · intro skips left
    obtain ⟨span, history, nothing⟩ := Completion.apply_skips keeps skips
    have settled : taken.worker.pending <:+ [.replyApplied] := by
      rw [took.worker, nothing]
      exact List.suffix_refl _
    rw [← took.place] at left ⊢
    obtain ⟨hostAfter, hostedAfter, same⟩ :=
      leftTo_settled took.present took.latched hostedTaken settled none left
    exact ⟨after, hostAfter, there, hostedAfter, same.text,
      by rw [remains.span, took.completion, span],
      by rw [remains.history, took.completion, history]⟩
  · intro reaches
    obtain ⟨span, operation, asks, puts⟩ := Completion.apply_inserts keeps brings reaches
    have pending : taken.worker.pending = [operation, .replyApplied] := by
      rw [took.worker, Worker.pending, asks]
      rfl
    obtain ⟨meanwhile, later, awaiting, making, split, due, same⟩ :=
      edit_comes_due took.present took.latched hostedTaken pending none rests
    rw [took.place] at same
    refine ⟨meanwhile, later, awaiting, making, operation, split, due, same, fun accepts left => ?_⟩
    subst split
    rw [← took.place] at left ⊢
    obtain ⟨hostAfter, hostedAfter, reads⟩ :=
      inserted_afterwards took.present took.latched pending puts due accepts none left
    exact ⟨after, hostAfter, there, hostedAfter, by rw [remains.span, took.completion, span, reads]⟩

/-- A host is left to a session that alone takes steps. -/
theorem leftTo_own {moves : List Move} (own : ∀ move ∈ moves, move = .act number .worker) :
    workspace.LeftTo number place moves := by
  induction moves generalizing workspace with
  | nil => exact trivial
  | cons move rest inductionHypothesis =>
    rw [List.forall_mem_cons] at own
    exact ⟨.inl own.1, inductionHypothesis own.2⟩

/-- A character has been typed into an empty document. -/
def typedAlone : Workspace :=
  (start .defaults [] [.fresh] (.noSession ⟨['d']⟩)).run
    (.openDocument (.ofBuffer ⟨['d']⟩ .direct .empty true) :: .activate ⟨['d']⟩ 0 ['c'] ::
      answeredBy [0] ++ [.edit ⟨['d']⟩ (.type 'p')])

/-- This is reached. -/
theorem typedAlone_reached : typedAlone.Reached :=
  ⟨_, _, _, _, _, rfl⟩

/-- The engine writes some bytes, and they are read. -/
def readFrom (content : Bytes) : List Move :=
  .deliver 0 content :: List.replicate 4 (.act 0 .intake)

/-- The answer to the character is about to be taken. -/
def expandedAlone : Workspace :=
  typedAlone.run (readFrom [112, 114, 0])

/-- The worker has taken the answer. -/
def expansionTaken : Workspace :=
  expandedAlone.perform (.act 0 .worker)

/-- The text of the expansion stands right before the span. -/
theorem expansion_reads :
    ∃ session host after hostAfter, expandedAlone.Reached ∧
      expandedAlone.sessions[0]? = some session ∧
      session.taking? = some (.expanded ['p', 'r']) ∧
      expandedAlone.hosts[session.host]? = some host ∧ host.cursor = .ok 0 ∧
      ¬ session.completion.TakesBack (.expanded ['p', 'r']) ∧
      ¬ session.completion.Skips (.expanded ['p', 'r']) 0 ∧
      (expansionTaken.run (List.replicate 3 (.act 0 .worker))).sessions[0]? = some after ∧
      (expansionTaken.run (List.replicate 3 (.act 0 .worker))).hosts[session.host]? =
        some hostAfter ∧
      hostAfter.buffer.Reads after.completion.spanStart ['p', 'r'] := by
  have stage : (expandedAlone.sessions[0]?.bind fun session =>
      expandedAlone.hosts[session.host]?.map fun host =>
        (session.taking?, session.completion.lastRequest, session.completion.spanStart, host)) =
      some (some (.expanded ['p', 'r']), some .advance, 0,
        .ofBuffer ⟨['d']⟩ .direct ⟨['p'], 1, some 0⟩ true) := by decide +kernel
  have done : ((expansionTaken.run (List.replicate 3 (.act 0 .worker))).sessions[0]?.map
      fun after => after.worker.isApplying) = some false := by decide +kernel
  obtain ⟨session, present, stage⟩ := Option.bind_eq_some_iff.mp stage
  obtain ⟨host, hosted, facts⟩ := Option.map_eq_some_iff.mp stage
  simp only [Prod.mk.injEq] at facts
  obtain ⟨takes, latest, span, same⟩ := facts
  have told : host.cursor = .ok 0 := by rw [same]; rfl
  have keeps : ¬ session.completion.TakesBack (.expanded ['p', 'r']) := by
    simp [Completion.TakesBack, latest]
  have reaches : ¬ session.completion.Skips (.expanded ['p', 'r']) 0 := by
    simp [Completion.Skips, span]
  obtain ⟨meanwhile, later, awaiting, making, operation, split, due, unchanged, reads⟩ :=
    (inserted_text_iff present takes hosted told keeps rfl (List.replicate 3 (.act 0 .worker))
      (by decide +kernel) (Option.map_eq_some_iff.mp done)).2 reaches
  have own : ∀ move ∈ meanwhile ++ .act 0 .worker :: later, move = .act 0 .worker := by
    rw [← split]
    exact fun move member => List.eq_of_mem_replicate member
  rw [List.forall_mem_append, List.forall_mem_cons] at own
  have still := unchanged (leftTo_own own.1)
  obtain ⟨after, hostAfter, there, hostedAfter, written⟩ :=
    reads (by rw [still.manner, same]; exact nofun) (leftTo_own own.2.2)
  refine ⟨session, host, after, hostAfter, typedAlone_reached.run _, present, takes, hosted, told,
    keeps, reaches, there, hostedAfter, written.mpr ?_⟩
  rw [Completion.insertionPoint, span]
  exact Nat.zero_le _

/-- The user has deleted a character of the expansion, and the engine reports that a pattern is
full. -/
def shortenedAlone : Workspace :=
  typedAlone.run (answeredBy [112, 114, 0] ++ .edit ⟨['d']⟩ .backspace :: readFrom [2])

/-- The space is put where the document ends, and the span begins past that end. -/
theorem full_pattern_past_end :
    shortenedAlone.Reached ∧
      (shortenedAlone.sessions[0]?.map fun session =>
        (session.taking?, session.completion.lastRequest, session.completion.spanStart)) =
        some (some .regexFull, some .revert, 2) ∧
      (shortenedAlone.hosts[0]?.map Host.buffer) = some ⟨['p'], 1, none⟩ ∧
      ((shortenedAlone.run (List.replicate 4 (.act 0 .worker))).sessions[0]?.map fun session =>
        (session.worker.isApplying, session.completion.spanStart)) = some (false, 3) ∧
      ((shortenedAlone.run (List.replicate 4 (.act 0 .worker))).hosts[0]?.map Host.buffer) =
        some ⟨['p', ' '], 2, none⟩ ∧
      ¬ Buffer.Reads ⟨['p', ' '], 2, none⟩ 3 [' '] := by
  refine ⟨typedAlone_reached.run _, by decide +kernel, by decide +kernel, by decide +kernel,
    by decide +kernel, ?_⟩
  rintro ⟨within, -⟩
  exact absurd within (by decide)

end Workspace

end Typeahead

import Typeahead.Proofs.Completion.Run
import Typeahead.Proofs.Document.Editing
import Typeahead.Proofs.Session.Stream

/-!
# A session and its buffer as one

A session applies a reply over many steps, and its host may take its time for the edit. To
the user this is one thing that happens to a *desk*, a completion with the buffer that it
works on: a character is typed, or a reply is answered.

The desk of a session is what comes out when its worker is done with the reply at hand: the
operations that are left are carried out at once. Then only the step with which the worker
takes a reply counts, and it does what answering the reply does to the desk; every other step
leaves the desk as it is (`stepWorker_desk`). This asks of the host that it performs what it
is asked to and heeds the end of a reply, as a text buffer does.
-/

namespace Typeahead

namespace Completion

/-- Whether an answer is outstanding makes no difference to what a reply does. -/
theorem apply_expireWait (completion : Completion) (reply : Reply) (cursor : Nat) :
    completion.expireWait.apply reply cursor = completion.apply reply cursor := by
  obtain ⟨spanStart, history, inRegex, phase, latest, handle, capabilities⟩ := completion
  cases reply with
  | ok =>
    rcases latest with _ | kind
    · cases inRegex <;> rfl
    · cases kind <;> cases inRegex <;> rfl
  | regexFull =>
    rcases latest with _ | kind
    · rfl
    · cases kind <;> rfl
  | expanded text =>
    simp only [Completion.apply, respond, expireWait]
    by_cases taken : latest = some .revert
    · simp only [taken, if_true, revert]
    · by_cases past : cursor + 1 < spanStart <;> simp only [taken, past, if_true, if_false, expand]
  | _ => rfl

/-- A reply leaves no answer outstanding. -/
theorem expireWait_apply (completion : Completion) (reply : Reply) (cursor : Nat) :
    (completion.apply reply cursor).1.expireWait = (completion.apply reply cursor).1 :=
  rfl

section Advanced

variable {completion : Completion} (latest : completion.lastRequest = some .advance)

include latest

/-- The acknowledgement of a character leaves the span behind when a pattern is gathered. -/
theorem apply_ok_of_advance (cursor : Nat) :
    completion.apply .ok cursor =
      ((if completion.inRegex then completion.moveSpan cursor else completion).expireWait, []) := by
  simp [Completion.apply, respond, acknowledge, latest]

/-- A pattern is left at the character, with a space before it. -/
theorem apply_regexFull_of_advance (cursor : Nat) :
    completion.apply .regexFull cursor =
      ((completion.closeRegex cursor).1.expireWait, [.insert cursor [' ']]) ∧
    (completion.closeRegex cursor).1.spanStart = cursor + 1 ∧
    (completion.closeRegex cursor).1.inRegex = false := by
  simp [Completion.apply, respond, closeRegex, latest, moveSpan]

/-- An expansion is put for the span and the character, unless the span begins past it. -/
theorem apply_expanded_of_advance {cursor : Nat} (reaches : completion.spanStart ≤ cursor + 1)
    (text : Text) :
    completion.apply (.expanded text) cursor =
      ((completion.expand text cursor).1.expireWait,
        [.replace completion.spanStart (cursor + 1) text]) ∧
    (completion.expand text cursor).1.spanStart = completion.spanStart + text.length ∧
    (completion.expand text cursor).1.inRegex = completion.inRegex := by
  have put : completion.expand text cursor =
      ({ completion with
          spanStart := completion.spanStart + text.length
          history := completion.history.push completion.spanStart },
        [.replace completion.spanStart (cursor + 1) text]) :=
    if_neg (Nat.not_lt.mpr reaches)
  have expands : ¬ completion.lastRequest = some .revert := by simp [latest]
  simp only [Completion.apply, respond, expands, if_false, put, and_self]

end Advanced

/-- No reply asks for an inverted range. -/
theorem apply_upright (completion : Completion) (reply : Reply) (cursor : Nat) :
    ∀ operation ∈ (completion.apply reply cursor).2.filterMap Effect.operation?,
      operation.Upright := by
  intro operation member
  obtain ⟨effect, asked, performs⟩ := List.mem_filterMap.mp member
  have answered := respond_answered completion reply cursor
  simp only [Completion.apply] at asked
  generalize completion.respond reply cursor = outcome at answered asked
  cases answered with
  | takenBack takes =>
    simp only [revert] at asked
    split at asked
    · next nonempty =>
      obtain rfl := List.mem_singleton.mp asked
      obtain rfl := Option.some.inj performs
      exact Nat.le_of_lt nonempty
    · cases asked
  | restarted ok latest => cases asked
  | moved ok gathering latest => cases asked
  | closed full =>
    obtain rfl := List.mem_singleton.mp asked
    obtain rfl := Option.some.inj performs
    exact trivial
  | expanded text brings latest =>
    unfold expand at asked
    split at asked
    · cases asked
    · next reaches =>
      obtain rfl := List.mem_singleton.mp asked
      obtain rfl := Option.some.inj performs
      exact Nat.le_of_not_lt reaches
  | stayed next effects span history sameLatest notFull noText keeps edits =>
    rcases edits effect asked with ⟨message, rfl⟩ | rfl
    · cases performs
    · obtain rfl := Option.some.inj performs
      exact Nat.le_succ cursor

end Completion

/-- A completion with the buffer that it works on. -/
structure Desk where
  completion : Completion
  buffer : Buffer
deriving DecidableEq

namespace Desk

/-- What can happen to a desk. -/
inductive Event where
  /-- The user types a character. -/
  | typed (character : Char)
  /-- A reply of the engine is applied. -/
  | answered (reply : Reply)
deriving DecidableEq

/-- The operations that a reply asks for. -/
def operations (desk : Desk) (reply : Reply) : List Buffer.Operation :=
  (desk.completion.apply reply desk.buffer.editCursor).2.filterMap Effect.operation?

/-- The desk after an event. -/
def step (desk : Desk) : Event → Desk
  | .typed character =>
    ⟨(desk.completion.sent (.advance character)).expireWait, desk.buffer.after (.type character)⟩
  | .answered reply =>
    ⟨(desk.completion.apply reply desk.buffer.editCursor).1,
      (desk.buffer.afterAll (desk.operations reply)).after .replyApplied⟩

/-- What answering a reply makes of a desk, given where edits go by and what the reply does. -/
theorem step_answered {desk : Desk} {reply : Reply} {cursor : Nat} {completion : Completion}
    {effects : List Effect} (edits : desk.buffer.editCursor = cursor)
    (applied : desk.completion.apply reply cursor = (completion, effects)) :
    desk.step (.answered reply) =
      ⟨completion,
        (desk.buffer.afterAll (effects.filterMap Effect.operation?)).after .replyApplied⟩ := by
  simp only [step, operations, edits, applied]

/-- The engine starts over with the cursor between two texts: the span begins at the cursor, and the
text is as it was. -/
theorem step_acknowledged {desk : Desk} {before after : Text}
    (asked : desk.completion.lastRequest = some .start)
    (opened : desk.buffer = ⟨before ++ after, before.length, none⟩) :
    desk.step (.answered .ok) =
      ⟨(desk.completion.restart before.length).expireWait,
        ⟨before ++ after, before.length, none⟩⟩ := by
  have restarted : desk.completion.apply .ok before.length =
      ((desk.completion.restart before.length).expireWait, []) := by
    simp [Completion.apply, Completion.respond, Completion.acknowledge, asked]
  rw [step_answered (by rw [opened]; rfl) restarted, opened]
  rfl

/-- The desk after several events. -/
def run (desk : Desk) (events : List Event) : Desk :=
  events.foldl step desk

end Desk

/-- What the worker still has the host do before it is done with the reply at hand. -/
def Worker.pending : Worker → List Buffer.Operation
  | .applying effects => effects.filterMap Effect.operation? ++ [.replyApplied]
  | .editing operation _ effects =>
    operation :: (effects.filterMap Effect.operation? ++ [.replyApplied])
  | _ => []

/-- A host that performs every edit it is asked for, tells where edits go by, and heeds the end of a
reply. -/
structure Host.Obliges (host : Host) : Prop where
  heeds : host.manner ≠ .silent
  edits : host.manner = .ordinary → host.rejectsEdits = false
  tells : host.manner = .ordinary → host.rejectsCursor = false

/-- A host that refuses no edit edits as its buffer does. -/
theorem Host.editFor_of_accepting {host : Host}
    (accepts : host.manner = .ordinary → host.rejectsEdits = false)
    (operation : Buffer.Operation) : host.editFor operation = host.edit operation := by
  unfold Host.editFor
  rw [if_neg]
  rintro ⟨ordinary, refuses⟩
  exact Bool.false_ne_true ((accepts ordinary).symm.trans refuses)

namespace Host.Obliges

variable {host : Host}

/-- An obliging host tells where edits go by. -/
theorem cursor (obliges : host.Obliges) : host.cursor = .ok host.buffer.editCursor := by
  unfold Host.cursor
  rw [if_neg]
  rintro ⟨ordinary, refuses⟩
  exact Bool.false_ne_true ((obliges.tells ordinary).symm.trans refuses)

/-- An obliging host edits as its buffer does. -/
theorem editFor (obliges : host.Obliges) (operation : Buffer.Operation) :
    host.editFor operation = host.edit operation :=
  Host.editFor_of_accepting obliges.edits operation

/-- An obliging host ends a reply as its buffer does. -/
theorem replyApplied (obliges : host.Obliges) :
    host.replyApplied = { host with buffer := host.buffer.after .replyApplied } :=
  if_neg obliges.heeds

end Host.Obliges

/-- The same host but for its buffer and for what it has shown. -/
structure Host.SameWays (host other : Host) : Prop where
  document : other.document = host.document
  manner : other.manner = host.manner
  listening : other.listening = host.listening
  rejectsEdits : other.rejectsEdits = host.rejectsEdits
  rejectsCursor : other.rejectsCursor = host.rejectsCursor

/-- A host obliges if one with the same ways does. -/
theorem Host.Obliges.sameWays {host other : Host} (obliges : host.Obliges)
    (same : host.SameWays other) : other.Obliges :=
  ⟨same.manner ▸ obliges.heeds, by rw [same.manner, same.rejectsEdits]; exact obliges.edits,
    by rw [same.manner, same.rejectsCursor]; exact obliges.tells⟩

/-- Reporting to the user changes nothing but what has been shown. -/
theorem Host.tell_sameWays (host : Host) (report : Text) :
    host.SameWays (host.tell report) ∧ (host.tell report).buffer = host.buffer := by
  unfold Host.tell
  split <;> exact ⟨⟨rfl, rfl, rfl, rfl, rfl⟩, rfl⟩

namespace Session

/-- The desk that is left when the worker is done with the reply at hand. -/
def desk (session : Session) (host : Host) : Desk :=
  ⟨session.completion.expireWait, host.buffer.afterAll session.worker.pending⟩

/-- The events that a step of the worker counts as. -/
def answering (session : Session) : List Desk.Event :=
  (session.taking?.map Desk.Event.answered).toList

/-- What a step of the worker does: to the desk it is the reply taken, if there is one; the session
keeps its document and host and is locked while it applies a reply; the host changes its
buffer at most; and no range is inverted. -/
structure Worked (session next : Session) (host hostAfter : Host) : Prop where
  desk : next.desk hostAfter = (session.desk host).run session.answering
  place : next.host = session.host
  locked : next.locked = next.worker.isApplying
  ways : host.SameWays hostAfter
  upright : ∀ operation ∈ next.worker.pending, operation.Upright

variable {session next : Session} {host hostAfter : Host}

/-- Taking a reply is answering it. -/
theorem beginReply_worked (obliges : host.Obliges) {deadline : Option Nat} {reply : Reply}
    {queue : List Reply} (waits : session.worker = .parked deadline)
    (active : session.cancelled = false) (head : session.intake.queue = reply :: queue) :
    session.Worked
      (beginReply { session with intake := { session.intake with queue } } host reply) host host := by
  have begun : beginReply { session with intake := { session.intake with queue } } host reply =
      { session with
        intake := { session.intake with queue }
        locked := true
        completion := (session.completion.apply reply host.buffer.editCursor).1
        worker := .applying (session.completion.apply reply host.buffer.editCursor).2 } := by
    simp only [beginReply, obliges.cursor]
  have before : session.desk host = ⟨session.completion.expireWait, host.buffer⟩ := by
    simp [desk, waits, Worker.pending, Buffer.afterAll]
  have taken : session.answering = [.answered reply] := by
    simp [answering, taking?_of_first waits active head]
  rw [begun]
  refine ⟨?_, rfl, rfl, ⟨rfl, rfl, rfl, rfl, rfl⟩, ?_⟩
  · rw [before, taken]
    simp only [desk, Worker.pending, Desk.run, List.foldl_cons, List.foldl_nil, Desk.step,
      Desk.operations, Completion.apply_expireWait, Completion.expireWait_apply, Buffer.afterAll,
      List.foldl_append]
  · intro operation member
    simp only [Worker.pending, List.mem_append, List.mem_singleton] at member
    rcases member with asked | rfl
    · exact session.completion.apply_upright reply _ operation asked
    · exact trivial

/-- A step that takes no reply and leaves the same to be done, by a buffer as it was, changes
nothing about the desk. -/
theorem worked_of_idle {session next : Session} {host hostAfter : Host}
    (idle : session.taking? = none)
    (completion : next.completion.expireWait = session.completion.expireWait)
    (done : hostAfter.buffer.afterAll next.worker.pending =
      host.buffer.afterAll session.worker.pending)
    (place : next.host = session.host) (locked : next.locked = next.worker.isApplying)
    (ways : host.SameWays hostAfter)
    (upright : ∀ operation ∈ next.worker.pending, operation.Upright) :
    session.Worked next host hostAfter := by
  refine ⟨?_, place, locked, ways, upright⟩
  simp [desk, completion, done, answering, idle, Desk.run]

/-- Every step of the worker is to the desk the reply that it takes, if it takes one. The host
carries out a pending operation or nothing. -/
theorem stepWorker_worked (obliges : host.Obliges) (locked : session.locked = session.worker.isApplying)
    (upright : ∀ operation ∈ session.worker.pending, operation.Upright) {now : Nat}
    {change : Option Change}
    (stepped : session.stepWorker host now = some (next, hostAfter, change)) :
    session.Worked next host hostAfter := by
  have same : host.SameWays host := ⟨rfl, rfl, rfl, rfl, rfl⟩
  have rests : ∀ completion news worker, session.taking? = none →
      session.worker.pending = Worker.pending worker → Worker.pending worker = [] →
      session.worker.isApplying = Worker.isApplying worker →
      completion.expireWait = session.completion.expireWait →
      session.Worked { session with completion, news, worker } host host := by
    intro completion news worker idle done nothing applies agrees
    exact worked_of_idle idle agrees (congrArg host.buffer.afterAll done.symm) rfl
      (locked.trans applies) same (by simp [nothing])
  cases stepWorker_cases stepped with
  | waits stage =>
    exact rests _ _ _ (by simp [taking?, stage]) (by rw [stage]; rfl) rfl (by rw [stage]; rfl) rfl
  | stops stage stopping =>
    exact rests _ _ _ (taking?_of_stopping stopping) (by rw [stage]; rfl) rfl (by rw [stage]; rfl) rfl
  | notices stage empty =>
    exact rests _ _ _ (taking?_of_empty empty) (by rw [stage]; rfl) rfl (by rw [stage]; rfl) rfl
  | expires stage empty =>
    exact rests _ _ _ (taking?_of_empty empty) (by rw [stage]; rfl) rfl (by rw [stage]; rfl) rfl
  | takes stage active first => exact beginReply_worked obliges stage active first
  | tells stage =>
    rw [stage] at locked upright
    obtain ⟨ways, buffer⟩ := host.tell_sameWays _
    exact worked_of_idle (by simp [taking?, stage]) rfl (by rw [stage, buffer]; rfl) rfl locked ways
      (by simpa [Worker.pending, Effect.operation?] using upright)
  | asks stage edits =>
    rw [stage] at locked upright
    exact worked_of_idle (by simp [taking?, stage]) rfl (by simp [stage, Worker.pending, edits]) rfl
      locked same (by simpa [Worker.pending, edits] using upright)
  | @edits operation _ _ _ _ stage performed =>
    rw [stage] at locked upright
    obtain ⟨first, others⟩ := List.forall_mem_cons.mp upright
    rw [obliges.editFor, Host.edit, host.buffer.perform_upright first] at performed
    cases performed
    exact worked_of_idle (by simp [taking?, stage]) rfl (by rw [stage]; rfl) rfl locked
      ⟨rfl, rfl, rfl, rfl, rfl⟩ others
  | passesOver stage refused =>
    rw [stage] at upright
    obtain ⟨first, -⟩ := List.forall_mem_cons.mp upright
    rw [obliges.editFor, Host.edit, host.buffer.perform_upright first] at refused
    cases refused
  | ends stage =>
    rw [obliges.replyApplied]
    exact worked_of_idle (by simp [taking?, stage]) rfl
      (by simp [stage, Worker.pending, Buffer.afterAll]) rfl rfl ⟨rfl, rfl, rfl, rfl, rfl⟩
      (by simp [Worker.pending])

end Session

end Typeahead

import Typeahead.Proofs.Engine.Writing
import Typeahead.Proofs.Session.Working

/-!
# What a session has on its way to the engine

The bytes that a session has written and those of the requests still queued are one
stream, which only grows when a request is sent. `Carries` fixes that stream for a session
that is at work on a connection that takes everything, together with the fact that the
session is locked exactly while it applies a reply. Every operation and every step of a
session keeps `Carries`; sending, restoring the cursor and hearing of a change add the
encodings of their requests to the stream, and nothing else adds to it.
-/

namespace Typeahead

namespace Request

/-- Requests written one after another take the place of their lists written so. -/
theorem encodeAll_append (first second : List Request) :
    encodeAll (first ++ second) = encodeAll first ++ encodeAll second :=
  List.flatMap_append

end Request

namespace Session

/-- The requests that a change of the document amounts to: a revert for each character that went,
and an advance for a single character that came, unless it is one kept for tags. -/
def owed (change : Change) : List Request :=
  List.replicate change.removed .revert ++
    match change.text with
    | [character] => if Request.reservedBelow ≤ character.toNat then [.advance character] else []
    | _ => []

/-- A session tells the engine of a change by the requests that it amounts to. -/
theorem requestsFor_eq_owed (change : Change) : requestsFor change = owed change := by
  obtain ⟨offset, removed, text⟩ := change
  match text with
  | [] => rfl
  | [character] =>
    by_cases reserved : character.toNat < Request.reservedBelow
    · simp [requestsFor, owed, Request.advance?, reserved]
    · simp [requestsFor, owed, Request.advance?, reserved, Nat.le_of_not_lt reserved]
  | _ :: _ :: _ => rfl

/-- A session at work on a connection that takes everything, with these bytes written or queued. -/
structure Carries (session : Session) (bytes : Bytes) : Prop where
  active : session.cancelled = false
  accepting : session.outlet.closed = false
  working : session.outlet.finished = false
  unlimited : session.outlet.sink.budget = none
  locked : session.locked = session.worker.isApplying
  stream : session.outlet.sink.written ++ Request.encodeAll session.outlet.queue = bytes

variable {session : Session} {bytes : Bytes}

/-- Sending puts the request at the end of the stream. -/
theorem Carries.send (carries : session.Carries bytes) (request : Request) :
    (session.send request).2 = .ok () ∧
      (session.send request).1.Carries (bytes ++ request.encode) ∧
      (session.send request).1.outlet.queue = session.outlet.queue ++ [request] := by
  have taken : session.outlet.send? request =
      some { session.outlet with queue := session.outlet.queue ++ [request] } := by
    simp [Outlet.send?, carries.accepting, carries.working]
  have sent : session.send request =
      ({ session with
          completion := session.completion.sent request
          outlet := { session.outlet with queue := session.outlet.queue ++ [request] }
          news := true }, .ok ()) := by
    simp only [Session.send, taken]
  rw [sent]
  refine ⟨rfl, ⟨carries.active, carries.accepting, carries.working, carries.unlimited,
    carries.locked, ?_⟩, rfl⟩
  rw [Request.encodeAll_append, ← List.append_assoc, carries.stream]
  simp [Request.encodeAll]

/-- Sending several requests puts all of them at the end of the stream, in order. -/
theorem Carries.sendAll (carries : session.Carries bytes) (requests : List Request) :
    (Session.sendAll requests session).2 = requests.length ∧
      (Session.sendAll requests session).1.Carries (bytes ++ Request.encodeAll requests) ∧
      (Session.sendAll requests session).1.outlet.queue = session.outlet.queue ++ requests := by
  induction requests generalizing session bytes with
  | nil => simpa [Session.sendAll, Request.encodeAll] using carries
  | cons request rest inductionHypothesis =>
    obtain ⟨queued, next, queue⟩ := carries.send request
    obtain ⟨count, last, lastQueue⟩ := inductionHypothesis next
    have outcome : session.send request = ((session.send request).1, .ok ()) := by
      rw [← queued]
    rw [Session.sendAll, outcome]
    refine ⟨by simp [count], ?_, by simp [lastQueue, queue]⟩
    simpa [Request.encodeAll] using last

/-- A change heard of while a reply is being applied adds nothing; any other one adds what it
amounts to, and the number reported is that of the requests queued. -/
theorem Carries.handleChange (carries : session.Carries bytes) (change : Change) :
    let requests := if session.worker.isApplying then [] else owed change
    (session.handleChange change).2 = requests.length ∧
      (session.handleChange change).1.Carries (bytes ++ Request.encodeAll requests) ∧
      (session.handleChange change).1.outlet.queue = session.outlet.queue ++ requests := by
  cases applying : session.worker.isApplying with
  | true =>
    have locked : session.locked = true := carries.locked.trans applying
    simpa [Session.handleChange, locked, Request.encodeAll] using carries
  | false =>
    have free : session.locked = false := carries.locked.trans applying
    simp only [Session.handleChange, free, Bool.false_eq_true, if_false]
    rw [requestsFor_eq_owed]
    exact carries.sendAll (owed change)

/-- The requests that giving the latest cursor handle back amounts to. -/
def restoring (session : Session) : List Request :=
  match session.completion.cursorHandle with
  | none => []
  | some handle => [.setCursor handle.toUInt16]

/-- Giving the cursor handle back sends it, if there is one. -/
theorem Carries.restoreCursor (carries : session.Carries bytes) :
    session.restoreCursor.1.Carries (bytes ++ Request.encodeAll session.restoring) := by
  cases known : session.completion.cursorHandle with
  | none => simpa [Session.restoreCursor, restoring, known, Request.encodeAll] using carries
  | some handle =>
    simpa [Session.restoreCursor, restoring, known, Request.encodeAll] using
      (carries.send (.setCursor handle.toUInt16)).2.1

/-- What happens on the inbound side alone does not touch the stream. -/
theorem Carries.withIntake (carries : session.Carries bytes) (intake : Intake) :
    { session with intake }.Carries bytes :=
  ⟨carries.active, carries.accepting, carries.working, carries.unlimited, carries.locked,
    carries.stream⟩

/-- The inbound side does not touch the stream. -/
theorem Carries.stepIntake (carries : session.Carries bytes) {next : Session}
    (stepped : session.stepIntake = some next) : next.Carries bytes := by
  obtain ⟨intake, _, rfl⟩ := Option.map_eq_some_iff.mp stepped
  exact carries.withIntake intake

/-- The outbound side moves bytes from the queue to the engine and changes nothing about the
stream of both. -/
theorem Carries.stepOutlet (carries : session.Carries bytes) {next : Session}
    (stepped : session.stepOutlet = some next) : next.Carries bytes := by
  obtain ⟨outlet, worked, rfl⟩ := Option.map_eq_some_iff.mp stepped
  cases Outlet.works_of_step worked with
  | ends active due =>
    rcases due with told | ⟨_, closed⟩
    · exact absurd (carries.active.symm.trans told) Bool.false_ne_true
    · exact absurd (carries.accepting.symm.trans closed) Bool.false_ne_true
  | @writes request rest active going queue =>
    obtain ⟨writes, same⟩ := session.outlet.write_eq request
    have everything : session.outlet.sink.takes request.encode = request.encode := by
      simp [Sink.takes, carries.unlimited]
    refine ⟨carries.active, carries.accepting, carries.working, ?_, carries.locked, ?_⟩
    · simp [same, carries.unlimited]
    · rw [← carries.stream, queue]
      simp [same, everything, Request.encodeAll]

/-- The outbound side waits only when everything has been written. -/
theorem Carries.written_of_idle (carries : session.Carries bytes)
    (idle : session.stepOutlet = none) : session.outlet.sink.written = bytes := by
  have waits := Option.map_eq_none_iff.mp idle
  cases queue : session.outlet.queue with
  | nil =>
    have stream := carries.stream
    rw [queue] at stream
    simpa [Request.encodeAll] using stream
  | cons request rest =>
    simp [Outlet.step, carries.active, carries.working, queue] at waits

/-- Taking a reply locks the session and begins to apply it. -/
theorem Carries.beginReply (carries : session.Carries bytes) (host : Host) (reply : Reply) :
    (session.beginReply host reply).Carries bytes := by
  unfold Session.beginReply
  split
  · exact ⟨carries.active, carries.accepting, carries.working, carries.unlimited, rfl, carries.stream⟩
  · exact ⟨carries.active, carries.accepting, carries.working, carries.unlimited, rfl, carries.stream⟩

/-- The worker sends nothing. It locks the session when it takes a reply and unlocks it when the
reply is done, so that the session is locked exactly in between. -/
theorem Carries.stepWorker (carries : session.Carries bytes) {host hostAfter : Host} {now : Nat}
    {next : Session} {change : Option Change}
    (stepped : session.stepWorker host now = some (next, hostAfter, change)) :
    next.Carries bytes := by
  have keeps : ∀ completion news locked worker, locked = Worker.isApplying worker →
      { session with completion, news, locked, worker }.Carries bytes := fun _ _ _ _ agrees =>
    ⟨carries.active, carries.accepting, carries.working, carries.unlimited, agrees, carries.stream⟩
  have locked := carries.locked
  cases stepWorker_cases stepped with
  | waits stage | stops stage | notices stage | expires stage | tells stage | asks stage
    | edits stage | passesOver stage =>
    rw [stage] at locked
    exact keeps _ _ _ _ locked
  | takes => exact (carries.withIntake _).beginReply _ _
  | ends => exact keeps _ _ _ _ rfl

/-- A step of the worker that edits the document happens while a reply is being applied. -/
theorem stepWorker_applying {host hostAfter : Host} {now : Nat} {next : Session} {change : Change}
    (stepped : session.stepWorker host now = some (next, hostAfter, some change)) :
    session.worker.isApplying = true ∧ next.worker.isApplying = true := by
  cases stepWorker_cases stepped with
  | edits stage => exact ⟨by rw [stage]; rfl, rfl⟩

end Session

end Typeahead

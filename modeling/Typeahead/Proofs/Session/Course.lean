import Typeahead.Proofs.Engine.Reading
import Typeahead.Proofs.Session.Stream

/-!
# The course of a session

Whatever happens to a session happens in turns of five kinds: it is asked to send requests,
something happens to the inbound or to the outbound side of its connection, it is told to
stop, or its worker takes a step. A `Course` is a run of such turns, with what passed
between the session and its engine on the way: each request asked for and each reply taken.

A request asked for is sent unless the outbound side has stopped; the session remembers it
either way. What every turn keeps, every course keeps (`Course.keeps`).
-/

namespace Typeahead

/-- What passes between a session and its engine. -/
inductive Exchange where
  /-- A request is asked for. -/
  | asked (request : Request)
  /-- A reply is taken, to be applied. -/
  | taken (reply : Reply)
deriving Repr, DecidableEq

/-- What can happen to the outbound side of a connection, apart from requests to be sent. -/
inductive Outlet.Turn (cancelled : Bool) (outlet : Outlet) : Outlet → Prop where
  /-- The engine drops its end. -/
  | cut : Turn cancelled outlet { outlet with sink := outlet.sink.cut }
  /-- A piece of work is done. -/
  | worked {next : Outlet} (stepped : outlet.step cancelled = some next) :
      Turn cancelled outlet next

namespace Session

/-- One turn of a session, with what passes in it. -/
inductive Turn (session : Session) : List Exchange → Session → Prop where
  /-- Requests are to be sent. -/
  | asked (requests : List Request) :
      Turn session (requests.map .asked) (sendAll requests session).1
  /-- The inbound side changes. -/
  | inbound {intake : Intake} (turn : session.intake.Turn session.cancelled intake) :
      Turn session [] { session with intake }
  /-- The outbound side changes. -/
  | outbound {outlet : Outlet} (turn : session.outlet.Turn session.cancelled outlet) :
      Turn session [] { session with outlet }
  /-- The session is told to stop. -/
  | cancelled : Turn session [] session.cancel
  /-- The worker takes a step. -/
  | worked {host hostAfter : Host} {now : Nat} {next : Session} {change : Option Change}
      (stepped : session.stepWorker host now = some (next, hostAfter, change)) :
      Turn session (session.taking?.toList.map .taken) next

/-- Some turns of a session, one after another, with what passes in them. -/
inductive Course : Session → List Exchange → Session → Prop where
  | rest (session : Session) : Course session [] session
  | turn {session middle after : Session} {first later : List Exchange}
      (turn : session.Turn first middle) (course : Course middle later after) :
      Course session (first ++ later) after

variable {session middle after : Session} {first later : List Exchange}

/-- A course of one turn. -/
theorem Turn.course (turn : session.Turn first after) : session.Course first after := by
  rw [← List.append_nil first]
  exact .turn turn (.rest after)

/-- One course behind another. -/
theorem Course.trans (course : session.Course first middle) (more : middle.Course later after) :
    session.Course (first ++ later) after := by
  induction course with
  | rest session => exact more
  | turn turn _ inductionHypothesis =>
    rw [List.append_assoc]
    exact .turn turn (inductionHypothesis more)

/-- What every turn keeps, every course keeps. -/
theorem Course.keeps {kept : Session → Prop}
    (turns : ∀ session exchanges after, kept session → Turn session exchanges after → kept after)
    (course : session.Course first after) (held : kept session) : kept after := by
  induction course with
  | rest session => exact held
  | turn turn _ inductionHypothesis => exact inductionHypothesis (turns _ _ _ held turn)

/-- Sending one request is sending a list of one. -/
theorem sendAll_single (session : Session) (request : Request) :
    (sendAll [request] session).1 = (session.send request).1 := by
  unfold sendAll
  split
  · next refused => rw [refused]
  · next accepted => rw [accepted, sendAll]

/-- Giving the cursor handle back is sending what that amounts to. -/
theorem restoreCursor_eq (session : Session) :
    session.restoreCursor.1 = (sendAll session.restoring session).1 := by
  cases known : session.completion.cursorHandle with
  | none => simp [restoreCursor, restoring, known, sendAll]
  | some handle => simp only [restoreCursor, restoring, known, sendAll_single]

/-- The requests with which a session answers to a change that it hears of. -/
def hearing (session : Session) (change : Change) : List Request :=
  if session.locked then [] else owed change

/-- Hearing of a change is sending what it amounts to. -/
theorem handleChange_eq (session : Session) (change : Change) :
    session.handleChange change = sendAll (session.hearing change) session := by
  cases locked : session.locked <;>
    simp [handleChange, hearing, locked, requestsFor_eq_owed, sendAll]

/-- Only a worker in the middle of a reply edits, and it leaves the lock as it is. -/
theorem stepWorker_edits {host hostAfter : Host} {now : Nat} {change : Change}
    (stepped : session.stepWorker host now = some (after, hostAfter, some change)) :
    after.hearing = session.hearing := by
  cases stepWorker_cases stepped with
  | edits => rfl

/-- What sending changes about a session. -/
theorem sendAll_kept (requests : List Request) (session : Session) :
    ∃ lastRequest phase outlet news, (sendAll requests session).1 =
      { session with
        completion := { session.completion with lastRequest, phase }
        outlet
        news } := by
  induction requests generalizing session with
  | nil => exact ⟨_, _, _, _, rfl⟩
  | cons request rest inductionHypothesis =>
    rw [sendAll]
    cases taken : session.outlet.send? request with
    | none =>
      simp only [send, taken]
      exact ⟨some request.kind, .awaitingReply, session.outlet, session.news, rfl⟩
    | some outlet =>
      simp only [send, taken]
      obtain ⟨lastRequest, phase, outletAfter, news, sent⟩ := inductionHypothesis
        { session with completion := session.completion.sent request, outlet, news := true }
      exact ⟨lastRequest, phase, outletAfter, news, sent⟩

/-- A session is locked exactly while it applies a reply. -/
def Latched (session : Session) : Prop :=
  session.locked = session.worker.isApplying

/-- Taking a reply locks the session, and the worker applies it from then on. -/
theorem beginReply_latched (session : Session) (host : Host) (reply : Reply) :
    (session.beginReply host reply).Latched := by
  unfold beginReply
  split <;> rfl

/-- Every turn keeps lock and worker in step. -/
theorem Latched.turn (session : Session) (exchanges : List Exchange) (after : Session)
    (latched : session.Latched) (turn : session.Turn exchanges after) : after.Latched := by
  cases turn with
  | asked requests =>
    obtain ⟨_, _, _, _, sent⟩ := sendAll_kept requests session
    rw [sent]
    exact latched
  | inbound | outbound | cancelled => exact latched
  | worked stepped =>
    unfold Latched at latched
    cases stepWorker_cases stepped with
    | waits stage | stops stage | notices stage | expires stage | tells stage | asks stage
      | edits stage | passesOver stage =>
      rw [stage] at latched
      exact latched
    | takes => exact beginReply_latched _ _ _
    | ends => rfl

/-- What is known of a session whatever has happened to it: lock and worker are in step, the inbound
side is sound, and the worker stops only when it is told to or when no reply will come. -/
structure Sound (limit : Nat) (session : Session) : Prop where
  latched : session.Latched
  intake : session.intake.Sound limit
  stops : session.worker = .finished →
    session.cancelled = true ∨ session.intake.finished = true

/-- Taking a reply leaves the inbound side as it is, and the worker goes on. -/
theorem beginReply_goesOn (session : Session) (host : Host) (reply : Reply) :
    (session.beginReply host reply).intake = session.intake ∧
      (session.beginReply host reply).worker ≠ .finished := by
  unfold beginReply
  split <;> exact ⟨rfl, nofun⟩

/-- Whatever happens to a session, it stays sound. -/
theorem Sound.turn (limit : Nat) (session : Session) (exchanges : List Exchange) (after : Session)
    (sound : session.Sound limit) (turn : session.Turn exchanges after) : after.Sound limit := by
  have latched := sound.latched.turn session exchanges after turn
  cases turn with
  | asked requests =>
    obtain ⟨_, _, _, _, sent⟩ := sendAll_kept requests session
    rw [sent] at latched ⊢
    exact ⟨latched, sound.intake, sound.stops⟩
  | inbound turn =>
    exact ⟨latched, sound.intake.turn turn,
      fun stopped => (sound.stops stopped).imp id turn.finished⟩
  | outbound => exact ⟨latched, sound.intake, sound.stops⟩
  | cancelled => exact ⟨latched, sound.intake, fun _ => .inl rfl⟩
  | worked stepped =>
    cases stepWorker_cases stepped with
    | stops stage stopping => exact ⟨latched, sound.intake, fun _ => stopping.imp id And.right⟩
    | takes stage active first =>
      obtain ⟨intake, goesOn⟩ := beginReply_goesOn _ _ _
      refine ⟨latched, ?_, fun stopped => absurd stopped goesOn⟩
      rw [intake]
      exact ⟨sound.intake.room, sound.intake.reading⟩
    | waits | notices | expires | tells | asks | edits | passesOver | ends =>
      exact ⟨latched, sound.intake, nofun⟩

end Session

end Typeahead

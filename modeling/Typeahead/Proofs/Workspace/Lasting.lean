import Typeahead.Proofs.Workspace.Exchanges

/-!
# What a session keeps

Whatever happens in a workspace, a session changes in one of a few ways: it sends, one of
the two sides of its connection changes, it is told to stop, or its worker takes a step.
A property that these keep is `Lasting`, and it holds of a session after every run if it
held before: `Holds.run`.
-/

namespace Typeahead

/-- A property that every operation and every step of a session keeps. -/
structure Session.Lasting (kept : Session → Prop) : Prop where
  send : ∀ session request, kept session → kept (session.send request).1
  inbound : ∀ (session : Session) intake, kept session → kept { session with intake }
  outbound : ∀ (session : Session) outlet, kept session → kept { session with outlet }
  cancel : ∀ session, kept session → kept session.cancel
  work : ∀ (session : Session) host now next hostAfter change, kept session →
    session.stepWorker host now = some (next, hostAfter, change) → kept next

namespace Session.Lasting

variable {kept : Session → Prop} {session : Session}

/-- Sending several requests keeps what sending one keeps. -/
theorem sendAll (lasting : Lasting kept) (requests : List Request) (held : kept session) :
    kept (Session.sendAll requests session).1 := by
  induction requests generalizing session with
  | nil => exact held
  | cons request rest inductionHypothesis =>
    have sent := lasting.send session request held
    rw [Session.sendAll]
    split
    · next refused => simpa [refused] using sent
    · next accepted =>
      rw [accepted] at sent
      exact inductionHypothesis sent

/-- Every turn of a session keeps a lasting property. -/
theorem turn (lasting : Lasting kept) (session : Session) (exchanges : List Exchange)
    (after : Session) (held : kept session) (turn : session.Turn exchanges after) : kept after := by
  cases turn with
  | asked requests => exact lasting.sendAll requests held
  | inbound => exact lasting.inbound _ _ held
  | outbound => exact lasting.outbound _ _ held
  | cancelled => exact lasting.cancel _ held
  | worked stepped => exact lasting.work _ _ _ _ _ _ held stepped

end Session.Lasting

namespace Workspace

/-- The session of a number exists and has a property. -/
def Holds (workspace : Workspace) (number : Nat) (kept : Session → Prop) : Prop :=
  ∃ session, workspace.sessions[number]? = some session ∧ kept session

variable {workspace : Workspace} {number : Nat} {kept : Session → Prop}

/-- Every move keeps a lasting property of a session that was there before. -/
theorem Holds.perform (holds : workspace.Holds number kept) (lasting : Session.Lasting kept)
    (move : Move) : (workspace.perform move).Holds number kept := by
  obtain ⟨session, present, held⟩ := holds
  obtain ⟨after, arrived, course⟩ := leads_perform present move
  exact ⟨after, arrived, course.keeps lasting.turn held⟩

/-- Every run keeps a lasting property of a session that was there before. -/
theorem Holds.run (holds : workspace.Holds number kept) (lasting : Session.Lasting kept)
    (moves : List Move) : (workspace.run moves).Holds number kept := by
  induction moves generalizing workspace with
  | nil => exact holds
  | cons move rest inductionHypothesis => exact inductionHypothesis (holds.perform lasting move)

end Workspace

end Typeahead

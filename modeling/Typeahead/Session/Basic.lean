import Typeahead.Completion.Basic
import Typeahead.Document.Host
import Typeahead.Engine.Intake
import Typeahead.Engine.Outlet

/-!
# Sessions

A session ties one document to one connection. It queues requests to the engine and
remembers what it asked last; it turns changes of the document into requests; and it
has three workers, one for each side of the connection and one that applies replies.

A change becomes one `revert` for each character taken away and an `advance` for a
single character put in. Changes that come while a reply is being applied are the
session's own and become nothing: the session is *locked* then.
-/

namespace Typeahead

/-- Where the applying worker stands. -/
inductive Worker where
  /-- Between two waits; a deadline that already runs goes on. -/
  | turning (deadline : Option Nat)
  /-- Waiting for a reply, for news of a request, or for the deadline. -/
  | parked (deadline : Option Nat)
  /-- Applying a reply, with these effects left to perform. -/
  | applying (effects : List Effect)
  /-- Applying a reply, with the host at work on an edit until it is due. -/
  | editing (operation : Buffer.Operation) (due : Nat) (effects : List Effect)
  | finished
deriving Repr, DecidableEq

/-- The binding of a document to a connection. -/
structure Session where
  document : DocumentId
  language : Text
  /-- The number of the document's host. -/
  host : Nat
  /-- How long a reply is awaited, if there is an end to it. -/
  timeout : Option Nat
  completion : Completion
  /-- Whether a reply is being applied. -/
  locked : Bool
  /-- Whether a request was sent of which the applying worker has not taken notice. -/
  news : Bool
  /-- Whether the session has been told to stop. -/
  cancelled : Bool
  intake : Intake
  outlet : Outlet
  worker : Worker

namespace Session

/-- Most decoded replies that wait to be applied. -/
def replyCapacity : Nat := 256

/-- A session that has sent nothing yet. -/
def start (document : DocumentId) (language : Text) (host : Nat) (settings : Settings)
    (intake : Intake) (sink : Sink) : Session where
  document
  language
  host
  timeout := settings.replyTimeout
  completion := .ofDepth settings.historyDepth
  locked := false
  news := false
  cancelled := false
  intake
  outlet := .start sink
  worker := .turning none

/-- Queue a request and remember it as the latest one. When the outbound side has
    stopped, the request is refused, though remembered all the same. -/
def send (session : Session) (request : Request) : Session × Except Fault Unit :=
  let recorded := { session with completion := session.completion.sent request }
  match session.outlet.send? request with
  | none => (recorded, .error (.sessionClosed session.document))
  | some outlet => ({ recorded with outlet, news := true }, .ok ())

/-- Give the engine its latest cursor handle back. -/
def restoreCursor (session : Session) : Session × Except Fault Unit :=
  match session.completion.cursorHandle with
  | none => (session, .error (.noCursorHandle session.document))
  | some handle => session.send (.setCursor handle.toUInt16)

/-- Queue requests until one is refused; the number is that of the requests queued. -/
def sendAll : List Request → Session → Session × Nat
  | [], session => (session, 0)
  | request :: rest, session =>
    match session.send request with
    | (session, .error _) => (session, 0)
    | (session, .ok ()) =>
      let (session, sent) := sendAll rest session
      (session, sent + 1)

/-- The requests that tell the engine of a change. -/
def requestsFor (change : Change) : List Request :=
  List.replicate change.removed .revert ++
    match Request.advance? change.text with
    | .ok request => [request]
    | .error _ => []

/-- Tell the engine of a change of the document, unless the session made it. The number
    is that of the requests queued. -/
def handleChange (session : Session) (change : Change) : Session × Nat :=
  if session.locked then (session, 0) else sendAll (requestsFor change) session

/-- Whether an answer is outstanding. -/
def isAwaitingReply (session : Session) : Bool :=
  session.completion.phase = .awaitingReply

/-- Tell every worker to stop. -/
def cancel (session : Session) : Session :=
  { session with cancelled := true }

/-- Whether every worker has stopped. -/
def hasEnded (session : Session) : Bool :=
  session.intake.finished && session.outlet.finished && session.worker = .finished

/-- A session on one line, as reports show it. -/
def describe (session : Session) : String :=
  "Session \x7b document: " ++ session.document.describe ++ ", language: " ++
    Quoted.quote session.language ++ ", insert_locked: " ++ toString session.locked ++ ", .. \x7d"

end Session

end Typeahead

import Typeahead.Document.Basic
import Typeahead.Engine.Reply
import Typeahead.Engine.Request
import Typeahead.Files
import Typeahead.Settings.Basic

/-!
# Faults

Everything that can go wrong in the client, by its cause. A fault has a kind, which
names the part that it concerns, and a detail in words; `message` puts them together
for the user, and `describe` shows the kind's name with the detail quoted.
-/

namespace Typeahead

namespace Fault

/-- The part of the client that a fault concerns. -/
inductive Kind where
  | settings
  | protocol
  | engine
  | editConflict
  | connection
  | invalidRequest
  | notFound
  | io
deriving Repr, DecidableEq

/-- The words in front of the detail. -/
def Kind.label : Kind → String
  | .settings => "config"
  | .protocol => "protocol"
  | .engine => "engine"
  | .editConflict => "edit conflict"
  | .connection => "connection"
  | .invalidRequest => "invalid request"
  | .notFound => "not found"
  | .io => "io"

/-- The name of the kind. -/
def Kind.name : Kind → String
  | .settings => "Config"
  | .protocol => "Protocol"
  | .engine => "Engine"
  | .editConflict => "EditConflict"
  | .connection => "Connection"
  | .invalidRequest => "InvalidRequest"
  | .notFound => "NotFound"
  | .io => "Io"

end Fault

/-- A cause of failure. -/
inductive Fault where
  /-- The settings cannot be used. -/
  | settings (cause : Settings.Invalid)
  /-- A frame holds no reply. -/
  | malformedReply (cause : Reply.Malformed)
  /-- The engine reported a failure of its own. -/
  | engine (report : Text)
  /-- An edit's range ends before it starts. -/
  | invertedRange (start stop : Nat)
  /-- The engine cannot be reached. -/
  | unreachable (address : Address) (cause : Files.Refusal)
  /-- A request cannot be made. -/
  | refusedRequest (cause : Request.Refusal)
  /-- The session of a document no longer takes requests. -/
  | sessionClosed (document : DocumentId)
  /-- A document has no session. -/
  | noSession (document : DocumentId)
  /-- The engine gave no cursor handle for a document. -/
  | noCursorHandle (document : DocumentId)
  /-- A failure that another part reports in its own words. -/
  | reported (kind : Fault.Kind) (detail : Text)
deriving Repr, DecidableEq

namespace Fault

/-- The part that a fault concerns. -/
def kind : Fault → Kind
  | .settings _ => .settings
  | .malformedReply _ => .protocol
  | .engine _ => .engine
  | .invertedRange _ _ => .editConflict
  | .unreachable _ _ => .connection
  | .refusedRequest _ => .invalidRequest
  | .sessionClosed _ => .connection
  | .noSession _ => .notFound
  | .noCursorHandle _ => .notFound
  | .reported kind _ => kind

/-- What went wrong, in words. An address that no socket can have is told apart from
    one where nobody answers. -/
def detail : Fault → String
  | .settings cause => cause.message
  | .malformedReply cause => cause.message
  | .engine report => String.ofList report
  | .invertedRange start stop =>
    "inverted range " ++ toString start ++ ".." ++ toString stop
  | .unreachable address .interiorNul =>
    "invalid engine address '" ++ address.display ++
      "': filesystem paths cannot contain interior nuls"
  | .unreachable address cause =>
    "failed to connect to '" ++ address.display ++ "': " ++ cause.message
  | .refusedRequest cause => cause.message
  | .sessionClosed document => "session for " ++ document.display ++ " is closed"
  | .noSession document => "no session for " ++ document.display
  | .noCursorHandle document => "no cursor handle assigned for " ++ document.display
  | .reported _ detail => String.ofList detail

/-- A fault as the user reads it. -/
def message (fault : Fault) : String :=
  fault.kind.label ++ ": " ++ fault.detail

/-- A fault by the name of its kind, with the detail quoted. -/
def describe (fault : Fault) : String :=
  fault.kind.name ++ "(" ++ Quoted.quote fault.detail.toList ++ ")"

end Fault

end Typeahead

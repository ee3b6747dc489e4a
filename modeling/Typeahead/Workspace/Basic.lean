import Typeahead.Session.Step

/-!
# The workspace

The workspace is all that is in play at once: the documents and their hosts, the
sessions with their connections, and the register that tells which session a document
has. The register routes: a change of a document goes to the session registered for it
at that moment, and nowhere if there is none.

Hosts and sessions are numbered in the order in which they came to be and are never
removed, so that a session that has been replaced can still finish an edit under way.
-/

namespace Typeahead

/-- A connection that nobody has taken yet. The engine may already have written to it, or
    have gone. -/
structure Line where
  /-- What the engine wrote. The connection does not keep the bounds of single writes. -/
  waiting : Bytes
  live : Bool
deriving Repr, DecidableEq

/-- A connection nobody has used. -/
def Line.fresh : Line :=
  ⟨[], true⟩

/-- The client's inbound side of a connection, when somebody takes it. -/
def Line.intake (line : Line) (settings : Settings) : Intake :=
  let opened := Intake.start settings.maxFrameBytes Session.replyCapacity
  let written := opened.receiveBytes line.waiting
  if line.live then written else written.close

/-- The engine's end of a connection, as seen by whoever takes it. -/
def Line.sink (line : Line) : Sink :=
  if line.live then .unlimited else Sink.unlimited.cut

/-- A client with its documents and sessions. -/
structure Workspace where
  settings : Settings
  /-- The directory of the user's sockets. -/
  directory : Text
  /-- The time, in milliseconds. -/
  clock : Nat
  /-- The connections that the engine still has to give, the next one first. -/
  lines : List Line
  /-- What connecting fails with when there is none left. -/
  refusal : Fault
  /-- The addresses that were asked for a connection, in order. -/
  contacted : List Address
  hosts : List Host
  sessions : List Session
  /-- The number of the session of each document that has one. -/
  registered : List (DocumentId × Nat)

namespace Workspace

/-- A workspace without documents. -/
def start (settings : Settings) (directory : Text) (lines : List Line) (refusal : Fault) :
    Workspace :=
  ⟨settings, directory, 0, lines, refusal, [], [], [], []⟩

/-- The number of the latest host of a document. -/
def hostOf? (workspace : Workspace) (document : DocumentId) : Option Nat :=
  (List.range workspace.hosts.length).reverse.find? fun number =>
    (workspace.hosts[number]?.map Host.document) = some document

/-- The number of the latest session of a document, registered or not. -/
def sessionOf? (workspace : Workspace) (document : DocumentId) : Option Nat :=
  (List.range workspace.sessions.length).reverse.find? fun number =>
    (workspace.sessions[number]?.map Session.document) = some document

/-- The number of the session registered for a document. -/
def registered? (workspace : Workspace) (document : DocumentId) : Option Nat :=
  workspace.registered.lookup document

/-- The documents with a session, sorted. -/
def active (workspace : Workspace) : List DocumentId :=
  DocumentId.sort (workspace.registered.map Prod.fst)

/-- Every document, sorted. -/
def documents (workspace : Workspace) : List DocumentId :=
  DocumentId.sort (workspace.hosts.map Host.document).eraseDups

/-- Put a session in its place. -/
def setSession (workspace : Workspace) (number : Nat) (session : Session) : Workspace :=
  { workspace with sessions := workspace.sessions.set number session }

/-- Put a host in its place. -/
def setHost (workspace : Workspace) (number : Nat) (host : Host) : Workspace :=
  { workspace with hosts := workspace.hosts.set number host }

/-- Open a document with a host of its own. If the document was open already, its sessions
    stay with the host that they have. -/
def openDocument (workspace : Workspace) (host : Host) : Workspace :=
  { workspace with hosts := workspace.hosts ++ [host] }

/-- Change the ways of a document's host. -/
def adjustHost (workspace : Workspace) (document : DocumentId) (adjust : Host → Host) :
    Workspace :=
  match workspace.hostOf? document with
  | none => workspace
  | some number => { workspace with hosts := workspace.hosts.modify number adjust }

/-- Tell a session of a change; the number is that of the requests it queues. -/
def tellSession (workspace : Workspace) (number : Nat) (change : Change) : Workspace × Nat :=
  match workspace.sessions[number]? with
  | none => (workspace, 0)
  | some session =>
    let (session, sent) := session.handleChange change
    (workspace.setSession number session, sent)

/-- Route a change to the session registered for the document. -/
def documentChanged (workspace : Workspace) (document : DocumentId) (change : Change) :
    Workspace × Nat :=
  match workspace.registered? document with
  | none => (workspace, 0)
  | some number => workspace.tellSession number change

/-- Report a change of a host's buffer, if it was edited and the host is listening. -/
def report (workspace : Workspace) (host : Host) (change : Option Change) : Workspace :=
  match change with
  | some change =>
    if host.listening then (workspace.documentChanged host.document change).1 else workspace
  | none => workspace

/-- The user, or the editor, operates on a document. -/
def edit (workspace : Workspace) (document : DocumentId) (operation : Buffer.Operation) :
    Except Fault (Workspace × Option Change) :=
  match workspace.hostOf? document with
  | none => .ok (workspace, none)
  | some number =>
    match workspace.hosts[number]? with
    | none => .ok (workspace, none)
    | some host =>
      (host.edit operation).map fun (host, change) =>
        ((workspace.setHost number host).report host change, change)

/-- Send a request by a session of a given number. -/
def sendBy (workspace : Workspace) (number : Nat) (request : Request) :
    Workspace × Except Fault Unit :=
  match workspace.sessions[number]? with
  | none => (workspace, .ok ())
  | some session =>
    let (session, outcome) := session.send request
    (workspace.setSession number session, outcome)

/-- Send a request by the session registered for a document. -/
def send (workspace : Workspace) (document : DocumentId) (request : Request) :
    Workspace × Except Fault Unit :=
  match workspace.registered? document with
  | none => (workspace, .error (.noSession document))
  | some number => workspace.sendBy number request

/-- Give the latest cursor handle of a session back to its engine. -/
def restoreCursor (workspace : Workspace) (number : Nat) : Workspace × Except Fault Unit :=
  match workspace.sessions[number]? with
  | none => (workspace, .ok ())
  | some session =>
    let (session, outcome) := session.restoreCursor
    (workspace.setSession number session, outcome)

/-- Tell a session to stop. -/
def cancel (workspace : Workspace) (number : Nat) : Workspace :=
  { workspace with sessions := workspace.sessions.modify number Session.cancel }

/-- Take a document out of the register. -/
def forget (workspace : Workspace) (document : DocumentId) : Workspace :=
  { workspace with registered := workspace.registered.filter (·.1 ≠ document) }

/-- Ask the engine for a connection and begin a session on it. The session is not part of
    the workspace yet. -/
def connect (workspace : Workspace) (document : DocumentId) (host : Nat) (language : Text) :
    Workspace × Except Fault Session :=
  let asked := { workspace with
    contacted := workspace.contacted ++ [workspace.settings.address workspace.directory] }
  match workspace.lines with
  | [] => (asked, .error workspace.refusal)
  | line :: lines =>
    ({ asked with lines },
      .ok (.start document language host workspace.settings (line.intake workspace.settings)
        line.sink))

/-- Make a session part of the workspace, under the next number. -/
def attach (workspace : Workspace) (session : Session) : Workspace :=
  { workspace with sessions := workspace.sessions ++ [session] }

/-- Register a session of the workspace for a document, in the place of any other one. -/
def register (workspace : Workspace) (document : DocumentId) (number : Nat) : Workspace :=
  { workspace with registered := (workspace.forget document).registered ++ [(document, number)] }

/-- Connect a document: a new session selects the language and takes the document's
    place in the register. The session that had the place is told to stop, and its number
    is the result. An unusable language is refused before anything else, and nothing
    changes when there is no connection. -/
def activate (workspace : Workspace) (document : DocumentId) (host : Nat) (language : Text) :
    Workspace × Except Fault (Option Nat) :=
  match Request.start? language with
  | .error refusal => (workspace, .error (.refusedRequest refusal))
  | .ok request =>
    match workspace.connect document host language with
    | (asked, .error fault) => (asked, .error fault)
    | (asked, .ok session) =>
      match session.send request with
      | (_, .error fault) => (asked, .error fault)
      | (session, .ok ()) =>
        let previous := workspace.registered? document
        let placed := (asked.attach session).register document asked.sessions.length
        (previous.elim placed placed.cancel, .ok previous)

/-- The engine writes bytes on a connection. They are lost, and the result is false, once
    either end is gone. -/
def deliver (workspace : Workspace) (connection : Nat) (content : Bytes) : Workspace × Bool :=
  match workspace.sessions[connection]? with
  | some session =>
    if session.outlet.sink.isCut ∨ (session.intake.finished ∧ session.outlet.finished) then
      (workspace, false)
    else
      (workspace.setSession connection
        { session with intake := session.intake.receiveBytes content }, true)
  | none =>
    match workspace.lines[connection - workspace.sessions.length]? with
    | none => (workspace, false)
    | some line =>
      if line.live then
        ({ workspace with
          lines := workspace.lines.set (connection - workspace.sessions.length)
            { line with waiting := line.waiting ++ content } }, true)
      else (workspace, false)

/-- The engine drops its end of a connection: nothing more arrives, and every write
    fails. -/
def hangUp (workspace : Workspace) (connection : Nat) : Workspace :=
  match workspace.sessions[connection]? with
  | some session =>
    workspace.setSession connection
      { session with
        intake := session.intake.close
        outlet := { session.outlet with sink := session.outlet.sink.cut } }
  | none =>
    { workspace with
      lines := workspace.lines.modify (connection - workspace.sessions.length)
        fun line => { line with live := false } }

/-- A workspace's register on one line, as reports show it. -/
def describe (workspace : Workspace) : String :=
  "SessionRegistry \x7b config: " ++ workspace.settings.describe ++ ", sessions: " ++
    DocumentId.describeAll workspace.active ++ ", .. \x7d"

end Workspace

end Typeahead

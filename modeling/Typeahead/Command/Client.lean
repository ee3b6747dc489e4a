import Typeahead.Command.Arguments
import Typeahead.Command.Report
import Typeahead.Settings.File
import Typeahead.Workspace.Schedule

/-!
# The client on the command line

The client works through a list of moves on a workspace with a single document: it
sends a request, presses a key, or waits until the engine has settled. While it waits
it looks every 10 ms whether an answer is outstanding or a reply is being applied; once
neither is so, it looks again after 50 ms of quiet and goes on if nothing has changed.
In any case it goes on when its patience is at an end.

A `Client` is told the time and the bytes that the engine wrote, and it tells how long
it can wait and which bytes go to the engine, so that it can run against any engine and
any clock.
-/

namespace Typeahead

/-- What the client does next. -/
inductive Move where
  | send (request : Request)
  | press (key : Char)
  | settle
deriving Repr, DecidableEq

/-- A wait for the engine to settle. -/
structure Settling where
  /-- When patience ends. -/
  limit : Nat
  /-- When the client looks again. -/
  look : Nat
  /-- Whether the next look comes after a time of quiet. -/
  quiet : Bool
deriving Repr, DecidableEq

/-- What is printed in the end. -/
inductive Printing where
  /-- The document, and a report on the session if it is wanted. -/
  | document (report : Bool)
  /-- The languages of the engine. -/
  | languages
deriving Repr, DecidableEq

/-- A running client. Its session has the number 0, and so has its host. -/
structure Client where
  workspace : Workspace
  document : DocumentId
  patience : Nat
  moves : List Move
  settling : Option Settling
  printing : Printing

namespace Client

/-- Time between two looks, in milliseconds. -/
def lookInterval : Nat := 10

/-- Time of quiet after which the engine counts as settled, in milliseconds. -/
def quietTime : Nat := 50

/-- The key that deletes the character before the cursor. -/
def backspace : Char := Char.ofNat 8

/-- The document into which input is typed. -/
def sendDocument : DocumentId := ⟨"nightfury://cli".toList⟩

/-- The document of a session that only asks for languages. -/
def languagesDocument : DocumentId := ⟨"nightfury://capabilities".toList⟩

/-- The settings for an invocation: those of its settings file, with its socket. `read`
    tells what comes of reading a file. -/
def settingsFor (read : Text → Except Files.Refusal Text) (invocation : Invocation) :
    Except Fault Settings :=
  let found : Except Fault Settings := match invocation.settingsFile with
    | none => .ok .defaults
    | some path => (Settings.ofFile (read path)).mapError .settings
  found.map fun settings =>
    { settings with socketPath := invocation.socket.or settings.socketPath }

/-- A workspace with one connection, if connecting to the address in the settings
    succeeds. -/
def workspaceFor (directory : Text) (settings : Settings) (connected : Except Files.Refusal Unit) :
    Workspace :=
  let address := settings.address directory
  match connected with
  | .ok () => .start settings directory [.fresh] (.unreachable address .connectionRefused)
  | .error refusal => .start settings directory [] (.unreachable address refusal)

/-- The moves for a typed input: each key is followed by a wait. -/
def keyMoves (input : Text) : List Move :=
  input.flatMap fun key => [.press key, .settle]

/-- Begin to type input into an empty document. -/
def startSend (workspace : Workspace) (patience : Nat) (language input : Text)
    (reset report : Bool) : Except Fault Client :=
  let opened := workspace.openDocument (.ofBuffer sendDocument .direct .empty true)
  match opened.activate sendDocument 0 language with
  | (_, .error fault) => .error fault
  | (workspace, .ok _) =>
    .ok {
      workspace
      document := sendDocument
      patience
      moves := .settle :: (if reset then [.send .reset, .settle] else []) ++ keyMoves input
      settling := none
      printing := .document report }

/-- Begin to ask for languages. The session selects none itself and is not registered. -/
def startLanguages (workspace : Workspace) (patience : Nat) : Except Fault Client :=
  let opened := workspace.openDocument (.ofBuffer languagesDocument .direct .empty false)
  match opened.connect languagesDocument 0 [] with
  | (_, .error fault) => .error fault
  | (workspace, .ok session) =>
    .ok {
      workspace := workspace.attach session
      document := languagesDocument
      patience
      moves := [.send .languages, .settle]
      settling := none
      printing := .languages }

/-- Begin what an invocation asks for, given what comes of connecting. -/
def start (directory : Text) (settings : Settings) (connected : Except Files.Refusal Unit)
    (invocation : Invocation) : Except Fault Client :=
  let workspace := workspaceFor directory settings connected
  match invocation.command with
  | .send language input reset json =>
    startSend workspace invocation.patience language input reset json
  | .capabilities => startLanguages workspace invocation.patience

/-- The client's session. -/
def session? (client : Client) : Option Session :=
  client.workspace.sessions[0]?

/-- Whether an answer is outstanding or a reply is being applied. -/
def isBusy (client : Client) : Bool :=
  client.session?.any fun session => session.isAwaitingReply || session.locked

/-- The next look of a wait, from now on. -/
def lookAgain (client : Client) (limit : Nat) : Settling :=
  if client.isBusy then ⟨limit, client.workspace.clock + lookInterval, false⟩
  else ⟨limit, client.workspace.clock + quietTime, true⟩

/-- Make the next move, if the client is not waiting. A request or a key that the
    workspace refuses is passed over. -/
def move (client : Client) : Option Client :=
  match client.settling, client.moves with
  | some _, _ => none
  | none, [] => none
  | none, .send request :: moves =>
    some { client with workspace := (client.workspace.sendBy 0 request).1, moves }
  | none, .press key :: moves =>
    let operation : Buffer.Operation := if key = backspace then .backspace else .type key
    match client.workspace.edit client.document operation with
    | .error _ => some { client with moves }
    | .ok (workspace, _) => some { client with workspace, moves }
  | none, .settle :: moves =>
    some { client with
      moves, settling := some (client.lookAgain (client.workspace.clock + client.patience)) }

/-- Look whether a wait is over, if it is time to look or patience is at an end. -/
def look (client : Client) : Option Client :=
  match client.settling with
  | none => none
  | some settling =>
    let now := client.workspace.clock
    if settling.limit ≤ now ∨ (settling.look ≤ now ∧ settling.quiet ∧ !client.isBusy) then
      some { client with settling := none }
    else if settling.look ≤ now then
      some { client with settling := some (client.lookAgain settling.limit) }
    else none

/-- Act until there is nothing to do without more time or more bytes, for at most `count`
    moves and looks. -/
def actWithin : Nat → Client → Client
  | 0, client => client
  | count + 1, client =>
    match client.move with
    | some client => actWithin count client
    | none =>
      let settled := { client with workspace := client.workspace.settle }
      match settled.look with
      | some client => actWithin count client
      | none => settled

/-- Act until there is nothing to do without more time or more bytes. Each move comes with
    at most one look, and one more look may be due at the start. -/
def act (client : Client) : Client :=
  actWithin (2 * client.moves.length + 2) client

/-- Whether all moves are made. -/
def isDone (client : Client) : Bool :=
  client.settling.isNone && client.moves.isEmpty

/-- The next moment at which something happens without more bytes. -/
def timer? (client : Client) : Option Nat :=
  ((client.settling.map fun settling => min settling.look settling.limit).toList ++
    client.workspace.timer?.toList).min?

/-- The client at a later time. -/
def atTime (client : Client) (now : Nat) : Client :=
  { client with workspace := { client.workspace with clock := max client.workspace.clock now } }

/-- The engine wrote bytes. -/
def receive (client : Client) (content : Bytes) : Client :=
  { client with workspace := (client.workspace.deliver 0 content).1 }

/-- The engine is gone. -/
def hangUp (client : Client) : Client :=
  { client with workspace := client.workspace.hangUp 0 }

/-- All bytes that went to the engine. -/
def written (client : Client) : Bytes :=
  client.session?.elim [] fun session => session.outlet.sink.written

/-- What the client prints when it is done. -/
def output (client : Client) : String :=
  match client.session? with
  | none => ""
  | some session =>
    match client.printing with
    | .languages => String.join (session.completion.capabilities.map fun name =>
        String.ofList name ++ "\n")
    | .document report =>
      let text := client.workspace.hosts[0]?.elim [] fun host => host.buffer.text
      String.ofList text ++ "\n" ++ if report then Report.ofSession session ++ "\n" else ""

/-- The end of the client: its session stops. -/
def finish (client : Client) : Client :=
  { client with workspace := client.workspace.close 0 }

/-- The name and the version of the client. -/
def version : String := "nightfury-client 0.1.0"

/-- How the client is used. -/
def usage : String :=
  "Usage: nightfury-client [--config FILE] [--socket PATH] [--log-format text|json]\n" ++
  "         [--settle-ms TIME] send -l LANGUAGE [-i INPUT] [-r] [--json]\n" ++
  "       nightfury-client [...] capabilities\n"

end Client

end Typeahead

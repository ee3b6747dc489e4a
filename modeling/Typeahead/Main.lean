import Typeahead.Command.Client

/-!
# The command line

Runs a client against a real engine and a real clock. The engine is reached through the
file at its address, which is opened for reading and writing, as that of a serial line
or a pseudo-terminal is. A second thread reads from the engine; the main one lets the
client act, passes on what it writes, and sleeps in between.
-/

namespace Typeahead.Terminal

/-- The words of the operating system for a failure. -/
def refusalOf : IO.Error → Files.Refusal
  | .noFileOrDirectory .. => .missing
  | .inappropriateType .. => .notDirectory
  | failure => .other (toString failure)

/-- The result of an action whose failures are the operating system's. -/
def attempt {α : Type} (action : IO α) : IO (Except Files.Refusal α) := do
  match ← action.toBaseIO with
  | .ok value => return .ok value
  | .error failure => return .error (refusalOf failure)

/-- Read a file as text. -/
def readText (path : Text) : IO (Except Files.Refusal Text) := do
  if Char.ofNat 0 ∈ path then return .error .interiorNul
  let content ← attempt (IO.FS.readBinFile (String.ofList path))
  return content.bind fun bytes => Files.textOf bytes.toList

/-- The number of the user, from the process's own status. -/
def userOf (status : String) : Option String :=
  (status.splitOn "\nUid:\t")[1]?.bind fun rest => (rest.splitOn "\t")[1]?

/-- The directory of the user's sockets when the environment names none: the system's one
    for the user if it is there, else the working directory. -/
def fallbackDirectory : IO Text := do
  let status ← (IO.FS.readFile "/proc/self/status").toBaseIO
  match status.toOption.bind userOf with
  | none => return ['.']
  | some user =>
    let directory := "/run/user/" ++ user
    match ← (IO.FS.Handle.mk (directory ++ "/.") .read).toBaseIO with
    | .ok _ => return directory.toList
    | .error _ => return ['.']

/-- The directory of the user's sockets. -/
def runtimeDirectory : IO Text := do
  let environment ← IO.getEnv "XDG_RUNTIME_DIR"
  return Settings.runtimeDirectory (environment.map String.toList) (← fallbackDirectory)

/-- Open the engine's end of a connection. -/
def openEngine (address : Address) : IO (Except Files.Refusal IO.FS.Handle) :=
  match Files.checkAddress address, address with
  | .error refusal, _ => return .error refusal
  | .ok (), .named _ => return .error .connectionRefused
  | .ok (), .path location => attempt (IO.FS.Handle.mk (String.ofList location) .readWrite)

/-- What the engine wrote and the client has not seen, and whether the engine is gone. -/
structure Inbox where
  content : Bytes
  ended : Bool

/-- Collect what the engine writes until it is gone. -/
partial def listen (engine : IO.FS.Handle) (inbox : IO.Ref Inbox) : IO Unit := do
  match ← (engine.read 4096).toBaseIO with
  | .ok bytes =>
    if bytes.isEmpty then inbox.modify fun seen => { seen with ended := true }
    else
      inbox.modify fun seen => { seen with content := seen.content ++ bytes.toList }
      listen engine inbox
  | .error _ => inbox.modify fun seen => { seen with ended := true }

/-- Pass on to the engine what the client has written since `sent` bytes. -/
def passOn (engine : IO.FS.Handle) (client : Client) (sent : Nat) : IO Unit := do
  let fresh := client.written.drop sent
  unless fresh.isEmpty do
    engine.write ⟨fresh.toArray⟩
    engine.flush

/-- Let the client act until it is done. -/
partial def converse (engine : IO.FS.Handle) (inbox : IO.Ref Inbox) (begun : Nat)
    (client : Client) (sent : Nat) : IO Client := do
  let client := client.act
  passOn engine client sent
  if client.isDone then return client.finish
  IO.sleep 1
  let seen ← inbox.modifyGet fun seen => (seen, { seen with content := [] })
  let heard := client.receive seen.content
  let after := if seen.ended then heard.hangUp else heard
  let now := (← IO.monoMsNow) - begun
  converse engine inbox begun (after.atTime now) client.written.length

/-- Run a client and print its output. -/
def runClient (engine : IO.FS.Handle) (client : Client) : IO Unit := do
  let inbox ← IO.mkRef ⟨[], false⟩
  let _ ← IO.asTask (listen engine inbox) Task.Priority.dedicated
  let client ← converse engine inbox (← IO.monoMsNow) client 0
  IO.print client.output

/-- Report a fault as the reason for stopping. -/
def stopWith (fault : Fault) : IO UInt32 := do
  IO.eprintln ("Error: " ++ fault.describe)
  return 1

/-- Carry out an invocation. -/
def carryOut (invocation : Invocation) : IO UInt32 := do
  let text ← readText (invocation.settingsFile.getD [])
  match Client.settingsFor (fun _ => text) invocation with
  | .error fault => stopWith fault
  | .ok settings =>
    let directory ← runtimeDirectory
    let engine ← openEngine (settings.address directory)
    match Client.start directory settings (engine.map fun _ => ()) invocation, engine with
    | .error fault, _ => stopWith fault
    | .ok client, .ok engine =>
      runClient engine client
      return 0
    | .ok _, .error refusal => stopWith (.unreachable (settings.address directory) refusal)

end Typeahead.Terminal

open Typeahead in
/-- Read the arguments and carry them out. -/
def main (arguments : List String) : IO UInt32 := do
  match Invocation.ofArguments (arguments.map String.toList) with
  | .error .version =>
    IO.println Client.version
    return 0
  | .error .help =>
    IO.print Client.usage
    return 0
  | .error .misuse =>
    IO.eprint Client.usage
    return 2
  | .ok invocation => Terminal.carryOut invocation

import Typeahead.Engine.Address
import Typeahead.Settings.Entry
import Typeahead.Text.Blank
import Typeahead.Text.Quoted

/-!
# Settings

The settings of the client, their defaults, and how a settings file changes them. A
file names each setting at most once, by its key; what it does not name keeps its
default. Settings are checked once they are complete.
-/

namespace Typeahead

/-- The settings of the client. -/
structure Settings where
  /-- The engine's socket, if it is given and not looked for. -/
  socketPath : Option Text
  /-- The name of the engine's socket in the runtime directory. -/
  socketFileName : Text
  /-- The name of the engine's socket where sockets have only names. -/
  pipeName : Text
  /-- Most span starts kept in a session. -/
  historyDepth : Nat
  /-- Milliseconds for which a reply is awaited; 0 is without end. -/
  replyTimeoutMs : Nat
  /-- Most bytes that a frame without its terminator may hold. -/
  maxFrameBytes : Nat
deriving Repr, DecidableEq

namespace Settings

/-- The settings when nothing else is asked for. -/
def defaults : Settings where
  socketPath := none
  socketFileName := "nightfury.sock".toList
  pipeName := "nightfury".toList
  historyDepth := 256
  replyTimeoutMs := 2000
  maxFrameBytes := 1048576

/-- Why settings are unusable. -/
inductive Invalid where
  /-- The file cannot be read, for the reason given. -/
  | unreadable (reason : String)
  /-- The file is malformed, or an entry is unknown, repeated, of the wrong kind or out
      of range. -/
  | malformed
  | noHistory
  | noFrameBytes
  | noSocketName
deriving Repr, DecidableEq

/-- The sentence that reports unusable settings. -/
def Invalid.message : Invalid → String
  | .unreadable reason => "failed to read config: " ++ reason
  | .malformed => "invalid config:"
  | .noHistory => "history_depth must be greater than zero"
  | .noFrameBytes => "max_frame_bytes must be greater than zero"
  | .noSocketName => "socket_file_name must not be empty"

/-- Change the setting that an entry names. -/
def set? (settings : Settings) (entry : Entry) : Option Settings :=
  match String.ofList entry.key, entry.value with
  | "socket_path", .text path => some { settings with socketPath := some path }
  | "socket_file_name", .text name => some { settings with socketFileName := name }
  | "pipe_name", .text name => some { settings with pipeName := name }
  | "history_depth", .integer (.ofNat depth) => some { settings with historyDepth := depth }
  | "reply_timeout_ms", .integer (.ofNat time) => some { settings with replyTimeoutMs := time }
  | "max_frame_bytes", .integer (.ofNat size) => some { settings with maxFrameBytes := size }
  | _, _ => none

/-- Settings that differ from the defaults as the entries say; no key occurs twice. -/
def ofEntries? (entries : List Entry) : Option Settings :=
  if (entries.map Entry.key).Nodup then entries.foldlM set? defaults else none

/-- Settings that can be used. Without a socket path the socket's name must not be
    blank. -/
def check (settings : Settings) : Except Invalid Settings :=
  if settings.historyDepth = 0 then .error .noHistory
  else if settings.maxFrameBytes = 0 then .error .noFrameBytes
  else if settings.socketPath = none ∧ settings.socketFileName.isBlank then .error .noSocketName
  else .ok settings

/-- The settings that a file holds. -/
def ofText (file : Text) : Except Invalid Settings :=
  match (Entry.ofText? file).bind ofEntries? with
  | none => .error .malformed
  | some settings => settings.check

/-- How long a reply is awaited, if there is an end to it. -/
def replyTimeout (settings : Settings) : Option Nat :=
  if settings.replyTimeoutMs = 0 then none else some settings.replyTimeoutMs

/-- The directory of the user's sockets: the one from the environment, unless that is
    missing or empty. -/
def runtimeDirectory (environment : Option Text) (fallback : Text) : Text :=
  match environment with
  | some (first :: rest) => first :: rest
  | _ => fallback

/-- Where the engine is expected: at the path given, or in the runtime directory. -/
def address (settings : Settings) (directory : Text) : Address :=
  match settings.socketPath with
  | some path => .path path
  | none => .path (Address.join directory settings.socketFileName)

/-- An optional path as reports show it. -/
def describePath : Option Text → String
  | none => "None"
  | some path => "Some(" ++ Quoted.quote path ++ ")"

/-- All settings on one line, as reports show them. -/
def describe (settings : Settings) : String :=
  "ClientConfig \x7b socket_path: " ++ describePath settings.socketPath ++
    ", socket_file_name: " ++ Quoted.quote settings.socketFileName ++
    ", pipe_name: " ++ Quoted.quote settings.pipeName ++
    ", history_depth: " ++ toString settings.historyDepth ++
    ", reply_timeout_ms: " ++ toString settings.replyTimeoutMs ++
    ", max_frame_bytes: " ++ toString settings.maxFrameBytes ++ " \x7d"

end Settings

end Typeahead

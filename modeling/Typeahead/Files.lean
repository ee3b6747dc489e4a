import Typeahead.Engine.Address
import Typeahead.Text.Utf8

/-!
# Files and sockets

What a client finds on its machine: directories, files, and sockets on which an engine
listens. A path is followed from the working directory, or from the root if it starts
with a slash, and every part before the last one has to be a directory. A path and each
name in it have a greatest length, and so has the name of a socket. Reading a file and
connecting to a socket fail with the operating system's words.
-/

namespace Typeahead

/-- What stands at a place in the file system. -/
inductive Node where
  | directory
  | file (content : Bytes)
  /-- A socket on which an engine listens. -/
  | listener
deriving Repr, DecidableEq

/-- A place: the names that lead to it from the root, which is the empty list. -/
abbrev Place := List Text

/-- The machine's files, and the names on which engines listen. -/
structure Files where
  /-- Where relative paths start. -/
  working : Place
  nodes : List (Place × Node)
  listeners : List Text
deriving Repr, DecidableEq

namespace Files

/-- Why the operating system refuses. -/
inductive Refusal where
  | missing
  | notDirectory
  | isDirectory
  /-- A path holds a NUL. -/
  | interiorNul
  /-- A path, or a name in it, is longer than the system allows. -/
  | nameTooLong
  | notText
  | connectionRefused
  /-- The empty path is not one of a socket. -/
  | noSocketPath
  /-- The name of a socket outside the file system holds a NUL. -/
  | nulInSocketName
  /-- The name of a socket is longer than an address can hold. -/
  | socketNameTooLong
  /-- Any other reason, in the words given. -/
  | other (words : String)
deriving Repr, DecidableEq

/-- The operating system's words. -/
def Refusal.message : Refusal → String
  | .missing => "No such file or directory (os error 2)"
  | .notDirectory => "Not a directory (os error 20)"
  | .isDirectory => "Is a directory (os error 21)"
  | .interiorNul => "file name contained an unexpected NUL byte"
  | .nameTooLong => "File name too long (os error 36)"
  | .notText => "stream did not contain valid UTF-8"
  | .connectionRefused => "Connection refused (os error 111)"
  | .noSocketPath => "Invalid argument (os error 22)"
  | .nulInSocketName => "interior nul bytes are not allowed inside Unix domain socket names"
  | .socketNameTooLong => "local socket name length exceeds capacity of sun_path of sockaddr_un"
  | .other words => words

/-- Most bytes in a path. -/
def pathCapacity : Nat := 4095

/-- Most bytes in one name of a path. -/
def nameCapacity : Nat := 255

/-- Most bytes in the name of a socket, which is a path or follows a leading NUL. -/
def socketCapacity : Nat := 108

/-- How many bytes a text takes as a name. -/
def nameLength (name : Text) : Nat :=
  (Utf8.encode name).length

/-- What stands at a place. The working directory is always there, with all that lead to
    it from the root. -/
def nodeAt? (files : Files) (place : Place) : Option Node :=
  if place.isPrefixOf files.working then some .directory
  else (files.nodes.find? fun node => node.1 = place).map Prod.snd

/-- The place one step on from a place that has to be a directory. The root is its own
    parent. -/
def step (files : Files) (place : Place) (name : Text) : Except Refusal Place :=
  match files.nodeAt? place with
  | none => .error .missing
  | some .directory =>
    if name = [] ∨ name = ['.'] then .ok place
    else if name = ['.', '.'] then .ok place.dropLast
    else if nameCapacity < nameLength name then .error .nameTooLong
    else .ok (place ++ [name])
  | some _ => .error .notDirectory

/-- Follow a path to what stands at its end. -/
def find (files : Files) (path : Text) : Except Refusal Node := do
  if path = [] then throw .missing
  if pathCapacity < nameLength path then throw .nameTooLong
  let start : Place := if path.head? = some '/' then [] else files.working
  let place ← (path.splitOn '/').foldlM files.step start
  match files.nodeAt? place with
  | none => throw .missing
  | some node => return node

/-- The answer to those who would read a socket like a file. -/
def noDevice : Refusal :=
  .other "No such device or address (os error 6)"

/-- A file's content as text. -/
def textOf (content : Bytes) : Except Refusal Text :=
  (Utf8.decode content).mapError fun _ => .notText

/-- The text of the file at a path. -/
def readText (files : Files) (path : Text) : Except Refusal Text :=
  if Char.ofNat 0 ∈ path then .error .interiorNul
  else
    match files.find path with
    | .error refusal => .error refusal
    | .ok .directory => .error .isDirectory
    | .ok .listener => .error noDevice
    | .ok (.file content) => textOf content

/-- Refuse the addresses that no socket can have. -/
def checkAddress : Address → Except Refusal Unit
  | .path location =>
    if Char.ofNat 0 ∈ location then .error .interiorNul
    else if socketCapacity < nameLength location then .error .socketNameTooLong
    else if location = [] then .error .noSocketPath
    else .ok ()
  | .named name =>
    if Char.ofNat 0 ∈ name then .error .nulInSocketName
    else if socketCapacity < nameLength name + 1 then .error .socketNameTooLong
    else .ok ()

/-- Look for a listening engine. A file without a listener refuses, as does a name that
    nobody uses. -/
def connect (files : Files) (address : Address) : Except Refusal Unit :=
  match checkAddress address, address with
  | .error refusal, _ => .error refusal
  | .ok (), .path location =>
    match files.find location with
    | .error refusal => .error refusal
    | .ok .listener => .ok ()
    | .ok _ => .error .connectionRefused
  | .ok (), .named name => if name ∈ files.listeners then .ok () else .error .connectionRefused

end Files

end Typeahead

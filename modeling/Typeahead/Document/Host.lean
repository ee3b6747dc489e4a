import Typeahead.Document.Buffer

/-!
# Hosts

The host is the editor's side of a document: it holds the buffer, performs the edits
that a session asks for, and shows the engine's failures to the user. It may take its
time for an edit, refuse edits, or refuse to tell the cursor.

A host has a *manner*. The ordinary one is described above. A direct host is the buffer
itself, which neither delays nor refuses anything and shows nothing; a silent one is the
same and pays no heed to the end of a reply.
-/

namespace Typeahead

/-- How a host treats what a session asks for. -/
inductive Manner where
  | ordinary
  | direct
  | silent
deriving Repr, DecidableEq

/-- The editor's side of a document. -/
structure Host where
  document : DocumentId
  manner : Manner
  buffer : Buffer
  /-- Whether changes of the buffer are reported to the sessions. -/
  listening : Bool
  /-- Whether edits are refused. -/
  rejectsEdits : Bool
  /-- Whether the cursor is not told. -/
  rejectsCursor : Bool
  /-- Milliseconds that an edit takes. -/
  delay : Nat
  /-- The failures shown to the user, oldest first. -/
  shown : List Fault
deriving Repr, DecidableEq

namespace Host

/-- A host that does at once what it is asked. -/
def ofBuffer (document : DocumentId) (manner : Manner) (buffer : Buffer) (listening : Bool) :
    Host :=
  ⟨document, manner, buffer, listening, false, false, 0, []⟩

/-- The answer of a host that refuses edits. -/
def editRejected : Fault :=
  .reported .editConflict "rejected by host".toList

/-- The answer of a host that does not tell the cursor. -/
def documentClosed : Fault :=
  .reported .notFound "document closed".toList

/-- Where edits go by, if the host tells. -/
def cursor (host : Host) : Except Fault Nat :=
  if host.manner = .ordinary ∧ host.rejectsCursor then .error documentClosed
  else .ok host.buffer.editCursor

/-- How long an edit takes. -/
def editDelay (host : Host) : Nat :=
  if host.manner = .ordinary then host.delay else 0

/-- Perform an operation on the buffer. -/
def edit (host : Host) (operation : Buffer.Operation) : Except Fault (Host × Option Change) :=
  (host.buffer.perform operation).map fun (buffer, change) => ({ host with buffer }, change)

/-- Perform an edit for a session, when its time has come. -/
def editFor (host : Host) (operation : Buffer.Operation) :
    Except Fault (Host × Option Change) :=
  if host.manner = .ordinary ∧ host.rejectsEdits then .error editRejected else host.edit operation

/-- Tell the user what the engine reports. -/
def tell (host : Host) (report : Text) : Host :=
  if host.manner = .ordinary then { host with shown := host.shown ++ [.engine report] } else host

/-- The end of a reply. -/
def replyApplied (host : Host) : Host :=
  if host.manner = .silent then host
  else { host with buffer := { host.buffer with anchor := none } }

end Host

end Typeahead

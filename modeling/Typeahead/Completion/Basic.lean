import Typeahead.Completion.SpanHistory
import Typeahead.Engine.Reply
import Typeahead.Engine.Request

/-!
# Completion in one document

The engine works on the *active span*, the text from the span's start to the cursor.
A `Completion` keeps track of that start, of the starts left behind, and of what was
asked last. `apply` takes one reply together with the cursor and answers with the
edits that the reply asks of the document:

| reply           | what follows                                                  |
|-----------------|---------------------------------------------------------------|
| `ok`            | undo a step after `revert`; begin afresh after `start` and    |
|                 | `reset`; inside a pattern, leave the span behind              |
| `error`         | tell the user                                                 |
| `regexFull`     | leave the pattern, and the span after `advance`; put a space  |
| `regexStart`    | enter a pattern                                               |
| `invalidChar`   | delete the character after the cursor                         |
| `cursorHandle`  | remember the handle                                           |
| `capabilities`  | remember the names                                            |
| `expanded`      | undo a step after `revert`; else put the text for the span    |

The cursor given is the one that edits go by: it stands before the character just
typed, so that the span with that character ends one past it.
-/

namespace Typeahead

/-- Whether an answer of the engine is outstanding. -/
inductive Phase where
  | idle
  | awaitingReply
deriving Repr, DecidableEq

/-- The name under which a phase is reported. -/
def Phase.name : Phase → String
  | .idle => "idle"
  | .awaitingReply => "awaiting_reply"

/-- What a reply asks of the document. -/
inductive Effect where
  /-- Put `text` for the characters from `start` to before `stop`. -/
  | replace (start stop : Nat) (text : Text)
  /-- Put `text` at `offset`. -/
  | insert (offset : Nat) (text : Text)
  /-- Take away the characters from `start` to before `stop`. -/
  | delete (start stop : Nat)
  /-- Tell the user what the engine reports. -/
  | showError (message : Text)
deriving Repr, DecidableEq

/-- The state of completion in one document. -/
structure Completion where
  /-- Where the active span begins. -/
  spanStart : Nat
  /-- The starts to which reverts go back. -/
  history : SpanHistory
  /-- Whether the engine is gathering a pattern. -/
  inRegex : Bool
  /-- Whether an answer is outstanding. -/
  phase : Phase
  /-- The kind of the latest request. -/
  lastRequest : Option Request.Kind
  /-- The latest cursor handle from the engine. -/
  cursorHandle : Option UInt8
  /-- The languages that the engine reported. -/
  capabilities : List Text
deriving Repr, DecidableEq

namespace Completion

/-- The state before any request, with the span at the beginning of the document. -/
def ofDepth (depth : Nat) : Completion :=
  ⟨0, .ofDepth depth, false, .idle, none, none, []⟩

/-- A state with the span at `spanStart` and these starts behind it, oldest first. -/
def withSpan (depth spanStart : Nat) (starts : List Nat) : Completion :=
  { ofDepth depth with spanStart, history := starts.foldl .push (.ofDepth depth) }

/-- A request goes out, and its answer is awaited from now on. -/
def sent (completion : Completion) (request : Request) : Completion :=
  { completion with lastRequest := some request.kind, phase := .awaitingReply }

/-- No answer is awaited any more. -/
def expireWait (completion : Completion) : Completion :=
  { completion with phase := .idle }

/-- Go back one step: the span is deleted up to the cursor, and the span before it is
    active again. A span that begins past the cursor has nothing to delete. -/
def revert (completion : Completion) (cursor : Nat) : Completion × List Effect :=
  let (start, history) := completion.history.pop
  ({ completion with spanStart := start, history },
    if completion.spanStart < cursor then [.delete completion.spanStart cursor] else [])

/-- Leave the span behind: the next one begins at the cursor. -/
def moveSpan (completion : Completion) (cursor : Nat) : Completion :=
  { completion with spanStart := cursor, history := completion.history.push completion.spanStart }

/-- The engine started over, so nothing before the cursor can be taken back. -/
def restart (completion : Completion) (cursor : Nat) : Completion :=
  { completion with spanStart := cursor, history := completion.history.clear, inRegex := false }

/-- Put `text` for the span and the character after the cursor, and continue behind
    it. A span that begins past that character stays as it is. -/
def expand (completion : Completion) (text : Text) (cursor : Nat) : Completion × List Effect :=
  if cursor + 1 < completion.spanStart then (completion, [])
  else
    ({ completion with
        spanStart := completion.spanStart + text.length
        history := completion.history.push completion.spanStart },
      [.replace completion.spanStart (cursor + 1) text])

/-- Leave the pattern and put a space where the span begins; the span continues behind
    it. After a typed character the span first moves up to the cursor. -/
def closeRegex (completion : Completion) (cursor : Nat) : Completion × List Effect :=
  let left := { completion with inRegex := false }
  let moved := if completion.lastRequest = some .advance then left.moveSpan cursor else left
  ({ moved with spanStart := moved.spanStart + 1 }, [.insert moved.spanStart [' ']])

/-- The acknowledgement of anything but a revert. -/
def acknowledge (completion : Completion) (cursor : Nat) : Completion :=
  match completion.lastRequest with
  | some .start => completion.restart cursor
  | some .reset => completion.restart cursor
  | some .setCursor => completion
  | _ => if completion.inRegex then completion.moveSpan cursor else completion

/-- What a reply does, apart from ending the wait for it. -/
def respond (completion : Completion) (reply : Reply) (cursor : Nat) : Completion × List Effect :=
  match reply with
  | .ok =>
    if completion.lastRequest = some .revert then completion.revert cursor
    else (completion.acknowledge cursor, [])
  | .error message => (completion, [.showError message])
  | .regexFull => completion.closeRegex cursor
  | .capabilities names => ({ completion with capabilities := names }, [])
  | .cursorHandle handle => ({ completion with cursorHandle := some handle }, [])
  | .invalidChar => (completion, [.delete cursor (cursor + 1)])
  | .regexStart => ({ completion with inRegex := true }, [])
  | .expanded text =>
    if completion.lastRequest = some .revert then completion.revert cursor
    else completion.expand text cursor

/-- Take one reply with the cursor at `cursor`: the state after it and the edits to
    perform, in order. Any reply ends the wait. -/
def apply (completion : Completion) (reply : Reply) (cursor : Nat) : Completion × List Effect :=
  let (next, effects) := completion.respond reply cursor
  (next.expireWait, effects)

end Completion

end Typeahead

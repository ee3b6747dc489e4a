import Typeahead.Text.Utf8

/-!
# Replies

The engine's answers and their written form, one frame each:

| reply              | frame                                   |
|--------------------|-----------------------------------------|
| `ok`               | 00                                      |
| `error`            | 01, message, 00                         |
| `regexFull`        | 02                                      |
| `capabilities`     | 03, names with semicolons between, 00   |
| `cursorHandle`     | 04, handle                              |
| `invalidChar`      | 05                                      |
| `regexStart`       | 06                                      |
| `expanded`         | text, 00                                |

Text is UTF-8. `encode` writes the frame and `decode` reads it; a frame whose first
byte is no tag is text as a whole.
-/

namespace Typeahead

/-- An answer of the completion engine. -/
inductive Reply where
  /-- The request was accepted, or a revert was acknowledged. -/
  | ok
  /-- The engine failed and has something to tell the user. -/
  | error (message : Text)
  /-- The engine's pattern buffer is full. -/
  | regexFull
  /-- The languages the engine can complete. -/
  | capabilities (names : List Text)
  /-- The handle that the engine gave to the current cursor. -/
  | cursorHandle (handle : UInt8)
  /-- The last typed character was refused. -/
  | invalidChar
  /-- The engine began to gather a pattern. -/
  | regexStart
  /-- Text that takes the place of the active span. -/
  | expanded (text : Text)
deriving Repr, DecidableEq

namespace Reply

/-- Why a frame holds no reply. -/
inductive Malformed where
  /-- There is no byte at all. -/
  | empty
  /-- A cursor handle frame ends before its handle. -/
  | missingHandle
  /-- The payload is not UTF-8. -/
  | notText (cause : Utf8.Malformed)
deriving Repr, DecidableEq

/-- The sentence that reports a malformed frame. -/
def Malformed.message : Malformed → String
  | .empty => "empty frame"
  | .missingHandle => "cursor handle frame missing handle"
  | .notText cause => "payload is not utf-8: " ++ cause.message

/-- The short name of a reply's kind. -/
def name : Reply → String
  | .ok => "ok"
  | .error _ => "error"
  | .regexFull => "regex_full"
  | .capabilities _ => "capabilities"
  | .cursorHandle _ => "cursor_handle"
  | .invalidChar => "invalid_char"
  | .regexStart => "regex_start"
  | .expanded _ => "expanded"

/-- The bytes of a payload without one terminator at its end. -/
def body (payload : Bytes) : Bytes :=
  if payload.getLast? = some terminator then payload.dropLast else payload

/-- The text of a payload. -/
def payloadText (payload : Bytes) : Except Malformed Text :=
  (Utf8.decode (body payload)).mapError .notText

/-- The names in a list whose separator is the semicolon; empty names do not count. -/
def capabilityNames (list : Text) : List Text :=
  (list.splitOn ';').filter fun name => !name.isEmpty

/-- Read one frame. -/
def decode : Bytes → Except Malformed Reply
  | [] => .error .empty
  | lead :: payload =>
    if lead = 0 then .ok .ok
    else if lead = 1 then (payloadText payload).map .error
    else if lead = 2 then .ok .regexFull
    else if lead = 3 then (payloadText payload).map fun list => .capabilities (capabilityNames list)
    else if lead = 4 then
      match payload with
      | [] => .error .missingHandle
      | handle :: _ => .ok (.cursorHandle handle)
    else if lead = 5 then .ok .invalidChar
    else if lead = 6 then .ok .regexStart
    else (payloadText (lead :: payload)).map .expanded

/-- Write one frame. -/
def encode : Reply → Bytes
  | .ok => [0]
  | .error message => 1 :: Utf8.encode message ++ [terminator]
  | .regexFull => [2]
  | .capabilities names => 3 :: Utf8.encode ([';'].intercalate names) ++ [terminator]
  | .cursorHandle handle => [4, handle]
  | .invalidChar => [5]
  | .regexStart => [6]
  | .expanded text => Utf8.encode text ++ [terminator]

end Reply

end Typeahead

import Typeahead.Text.Quoted
import Typeahead.Text.Utf8

/-!
# Requests

What the client asks of the engine, and the bytes that ask it:

| request      | bytes                                              |
|--------------|----------------------------------------------------|
| `languages`  | 01                                                 |
| `revert`     | 03                                                 |
| `reset`      | 04                                                 |
| `start`      | 05, language, 00                                   |
| `setCursor`  | 06, handle in two bytes with the high one first, 00 |
| `advance`    | character, 00                                      |

Text is UTF-8. An engine tells an `advance` by its first byte being none of the tags,
so `advance?` refuses the characters below U+0008; `start?` refuses a language that
could not be read back up to its terminator.
-/

namespace Typeahead

/-- A command to the completion engine. -/
inductive Request where
  /-- Ask which languages the engine can complete. -/
  | languages
  /-- Undo the engine's latest step. -/
  | revert
  /-- Start over in the current language. -/
  | reset
  /-- Select the language of the document. -/
  | start (language : Text)
  /-- Give a cursor handle back to the engine. -/
  | setCursor (handle : UInt16)
  /-- Feed one typed character. -/
  | advance (character : Char)
deriving Repr, DecidableEq

namespace Request

/-- The kinds of request, which is what a session remembers of the latest one. -/
inductive Kind where
  | languages
  | revert
  | reset
  | start
  | setCursor
  | advance
deriving Repr, DecidableEq

/-- The name under which a kind is reported. -/
def Kind.name : Kind → String
  | .languages => "get_capabilities"
  | .revert => "revert"
  | .reset => "reset"
  | .start => "initialize"
  | .setCursor => "set_cursor"
  | .advance => "advance"

/-- The kind of a request. -/
def kind : Request → Kind
  | .languages => .languages
  | .revert => .revert
  | .reset => .reset
  | .start _ => .start
  | .setCursor _ => .setCursor
  | .advance _ => .advance

/-- Why a request cannot be made. -/
inductive Refusal where
  /-- An advance takes one character, and this text is not one. -/
  | notOneCharacter (text : Text)
  /-- The engine would read this character as a tag. -/
  | reservedCharacter (character : Char)
  /-- The language is empty or holds a NUL. -/
  | unusableLanguage (language : Text)
deriving Repr, DecidableEq

/-- The sentence that reports a refusal. -/
def Refusal.message : Refusal → String
  | .notOneCharacter text =>
    "advance takes exactly one character, got " ++ Quoted.quote text
  | .reservedCharacter character =>
    "character " ++ Quoted.quoteCharacter character ++ " collides with a protocol opcode"
  | .unusableLanguage language => "invalid language id " ++ Quoted.quote language

/-- The code points below this one are kept for tags. -/
def reservedBelow : Nat := 8

/-- The request that feeds a typed text of one character. -/
def advance? : Text → Except Refusal Request
  | [character] =>
    if character.toNat < reservedBelow then .error (.reservedCharacter character)
    else .ok (.advance character)
  | text => .error (.notOneCharacter text)

/-- The request that selects a language. -/
def start? (language : Text) : Except Refusal Request :=
  if language = [] ∨ Char.ofNat 0 ∈ language then .error (.unusableLanguage language)
  else .ok (.start language)

/-- The bytes of a request. -/
def encode : Request → Bytes
  | .languages => [1]
  | .revert => [3]
  | .reset => [4]
  | .start language => 5 :: Utf8.encode language ++ [terminator]
  | .setCursor handle => [6, (handle >>> 8).toUInt8, handle.toUInt8, terminator]
  | .advance character => Utf8.encode [character] ++ [terminator]

/-- Append the bytes of a request to a buffer. -/
def encodeInto (request : Request) (buffer : Bytes) : Bytes :=
  buffer ++ request.encode

/-- The bytes of requests written one after another. -/
def encodeAll (requests : List Request) : Bytes :=
  requests.flatMap encode

/-- The bytes of the first request come first. -/
theorem encodeAll_cons (request : Request) (rest : List Request) :
    encodeAll (request :: rest) = request.encode ++ encodeAll rest :=
  List.flatMap_cons

/-- Append the bytes of requests to a buffer, one request after another. -/
def encodeAllInto (requests : List Request) (buffer : Bytes) : Bytes :=
  requests.foldl (fun written request => request.encodeInto written) buffer

/-- What the buffer holds stays, and the bytes of the requests come behind it. -/
theorem encodeAllInto_eq (requests : List Request) (buffer : Bytes) :
    encodeAllInto requests buffer = buffer ++ encodeAll requests := by
  unfold encodeAllInto
  induction requests generalizing buffer with
  | nil => exact (List.append_nil buffer).symm
  | cons request rest inductionHypothesis =>
    rw [List.foldl_cons, inductionHypothesis, encodeInto, encodeAll_cons, List.append_assoc]

/-- A request as logs and reports show it. -/
def describe : Request → String
  | .languages => "GetCapabilities"
  | .revert => "Revert"
  | .reset => "Reset"
  | .start language => "Initialize(" ++ Quoted.quote language ++ ")"
  | .setCursor handle => "SetCursor(" ++ toString handle.toNat ++ ")"
  | .advance character => "Advance(" ++ Quoted.quoteCharacter character ++ ")"

end Request

end Typeahead

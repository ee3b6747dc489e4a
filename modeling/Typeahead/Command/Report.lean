import Typeahead.Session.Basic

/-!
# Session reports

The state of a session as a JSON object over several lines, two blanks for each level,
one line for each field. Strings escape the quotation mark, the backslash and the
controls, and nothing else.
-/

namespace Typeahead.Report

/-- A character within a JSON string. -/
def escape (character : Char) : Text :=
  let code := character.toNat
  if character = '"' ∨ character = '\\' then ['\\', character]
  else if code = 8 then ['\\', 'b']
  else if code = 9 then ['\\', 't']
  else if code = 10 then ['\\', 'n']
  else if code = 12 then ['\\', 'f']
  else if code = 13 then ['\\', 'r']
  else if code < 32 then
    ['\\', 'u', '0', '0', Nat.digitChar (code / 16), Nat.digitChar (code % 16)]
  else [character]

/-- A JSON string. -/
def string (text : Text) : String :=
  "\"" ++ String.ofList (text.flatMap escape) ++ "\""

/-- An optional value. -/
def orNull : Option String → String
  | none => "null"
  | some value => value

/-- Values between an opening and a closing mark, each on its own line at the given
    depth; nothing stands between the marks if there are no values. -/
def block (opening closing : String) (depth : Nat) (values : List String) : String :=
  let newLine (level : Nat) : String := "\n" ++ String.ofList (List.replicate (2 * level) ' ')
  if values = [] then opening ++ closing
  else
    opening ++ newLine depth ++ ("," ++ newLine depth).intercalate values ++
      newLine (depth - 1) ++ closing

/-- A field of an object. -/
def field (name value : String) : String :=
  string name.toList ++ ": " ++ value

/-- The report on a session. -/
def ofSession (session : Session) : String :=
  let completion := session.completion
  block "\x7b" "\x7d" 1
    [field "document" (string session.document.name),
      field "language" (string session.language),
      field "insert_locked" (toString session.locked),
      field "span_start" (toString completion.spanStart),
      field "history_depth" (toString completion.history.depth),
      field "phase" (string completion.phase.name.toList),
      field "in_regex" (toString completion.inRegex),
      field "last_request"
        (orNull (completion.lastRequest.map fun kind => string kind.name.toList)),
      field "cursor_handle"
        (orNull (completion.cursorHandle.map fun handle => toString handle.toNat)),
      field "capabilities" (block "[" "]" 2 (completion.capabilities.map string))]

end Typeahead.Report

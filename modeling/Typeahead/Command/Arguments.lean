import Typeahead.Settings.Entry

/-!
# Command line arguments

Arguments are read from left to right. An option has a long form, `--name`, and some
have a short one, `-n`. The value of a long option follows an equals sign or is the
next argument; that of a short option is the rest of its argument, with or without an
equals sign, or the next argument. Short options without a value can share one
argument. A value that is an argument of its own does not begin with a dash, unless it
is a dash alone. No option is given twice, and two dashes end the options.

The first mistake ends the reading, as does the wish to see the version or some help.
-/

namespace Typeahead

/-- What an option asks for. -/
inductive OptionKind where
  /-- Nothing; it is given or not. -/
  | flag
  /-- Any text. -/
  | text
  /-- The path of a file, which is not empty. -/
  | path
  /-- A number of milliseconds, below 2 to the power of 64. -/
  | milliseconds
  /-- One of the log formats. -/
  | logFormat
  /-- The version, and nothing more. -/
  | version
  /-- An explanation, and nothing more. -/
  | help
deriving Repr, DecidableEq

/-- An option that a command knows. -/
structure OptionForm where
  long : String
  short : Option Char
  kind : OptionKind
deriving Repr, DecidableEq

/-- Why reading arguments ends early. -/
inductive Interruption where
  | misuse
  | version
  | help
deriving Repr, DecidableEq

/-- The options given, with their values; that of a flag is empty. -/
abbrev GivenOptions := List (String × Text)

namespace OptionForm

/-- Whether an option takes a value. -/
def takesValue (form : OptionForm) : Bool :=
  match form.kind with
  | .flag | .version | .help => false
  | _ => true

/-- The number that a run of decimal digits spells, with or without a plus sign. -/
def milliseconds? (value : Text) : Option Nat :=
  let digits := if value.head? = some '+' then value.drop 1 else value
  if digits = [] then none
  else (Entry.digitsValue? 10 digits).filter (· < Nat.pow 2 64)

/-- Whether a value is one that the option takes. -/
def accepts (form : OptionForm) (value : Text) : Bool :=
  match form.kind with
  | .path => value ≠ []
  | .milliseconds => (milliseconds? value).isSome
  | .logFormat => value = "text".toList || value = "json".toList
  | _ => true

/-- Take note of an option that has been given. -/
def record (form : OptionForm) (value : Text) (given : GivenOptions) :
    Except Interruption GivenOptions :=
  match form.kind with
  | .version => .error .version
  | .help => .error .help
  | _ =>
    if (given.lookup form.long).isSome || !form.accepts value then .error .misuse
    else .ok (given ++ [(form.long, value)])

end OptionForm

namespace Arguments

/-- Whether an argument can be the value of the option before it. -/
def isValue (argument : Text) : Bool :=
  argument.head? ≠ some '-' || argument = ['-']

/-- Read an argument of the form `--name` or `--name=value`. The second result is the
    option that still wants its value. -/
def readLong (forms : List OptionForm) (body : Text) (given : GivenOptions) :
    Except Interruption (GivenOptions × Option OptionForm) :=
  let name := body.takeWhile (· ≠ '=')
  match forms.find? fun form => form.long.toList = name, body.drop name.length with
  | none, _ => .error .misuse
  | some form, [] =>
    if form.takesValue then .ok (given, some form)
    else (form.record [] given).map (·, none)
  | some form, _ :: value =>
    if form.takesValue then (form.record value given).map (·, none) else .error .misuse

/-- Read the short options of one argument, without its dash. -/
def readShort (forms : List OptionForm) : Text → GivenOptions →
    Except Interruption (GivenOptions × Option OptionForm)
  | [], given => .ok (given, none)
  | letter :: rest, given =>
    match forms.find? fun form => form.short = some letter with
    | none => .error .misuse
    | some form =>
      if form.takesValue then
        match rest with
        | [] => .ok (given, some form)
        | '=' :: value => (form.record value given).map (·, none)
        | value => (form.record value given).map (·, none)
      else
        match form.record [] given with
        | .error interruption => .error interruption
        | .ok given => readShort forms rest given

/-- Read an argument that begins with a dash. -/
def readOption (forms : List OptionForm) (argument : Text) (given : GivenOptions) :
    Except Interruption (GivenOptions × Option OptionForm) :=
  match argument with
  | '-' :: '-' :: body => readLong forms body given
  | _ => readShort forms (argument.drop 1) given

/-- Read options up to the first word, which is left with all that follows it. An option
    that wants a value gets the next argument. -/
def readOptions (forms : List OptionForm) (wanting : Option OptionForm) (given : GivenOptions) :
    List Text → Except Interruption (GivenOptions × List Text)
  | [] => if wanting.isSome then .error .misuse else .ok (given, [])
  | argument :: rest =>
    match wanting with
    | some form =>
      if isValue argument then
        match form.record argument given with
        | .error interruption => .error interruption
        | .ok given => readOptions forms none given rest
      else .error .misuse
    | none =>
      if isValue argument then .ok (given, argument :: rest)
      else if argument = ['-', '-'] then if rest = [] then .ok (given, []) else .error .misuse
      else
        match readOption forms argument given with
        | .error interruption => .error interruption
        | .ok (given, wanting) => readOptions forms wanting given rest

end Arguments

/-- What the client is to do. -/
inductive Command where
  /-- Type input into an empty document and print the result. -/
  | send (language input : Text) (reset json : Bool)
  /-- Print the languages that the engine can complete. -/
  | capabilities
deriving Repr, DecidableEq

/-- A command with the options that hold for every command. -/
structure Invocation where
  settingsFile : Option Text
  socket : Option Text
  /-- How long the client waits for the engine after each keystroke, in milliseconds. -/
  patience : Nat
  command : Command
deriving Repr, DecidableEq

namespace Invocation

/-- The wait after a keystroke when nothing else is asked for. -/
def defaultPatience : Nat := 1000

/-- The options in front of the command. -/
def commonForms : List OptionForm :=
  [⟨"config", none, .path⟩, ⟨"socket", none, .path⟩, ⟨"log-format", none, .logFormat⟩,
    ⟨"settle-ms", none, .milliseconds⟩, ⟨"version", some 'V', .version⟩, ⟨"help", some 'h', .help⟩]

/-- The options of `send`. -/
def sendForms : List OptionForm :=
  [⟨"language", some 'l', .text⟩, ⟨"input", some 'i', .text⟩, ⟨"reset", some 'r', .flag⟩,
    ⟨"json", none, .flag⟩, ⟨"help", some 'h', .help⟩]

/-- The options of `capabilities`. -/
def capabilitiesForms : List OptionForm :=
  [⟨"help", some 'h', .help⟩]

/-- The options of a command, after which nothing may follow. -/
def commandOptions (forms : List OptionForm) (arguments : List Text) :
    Except Interruption GivenOptions :=
  match Arguments.readOptions forms none [] arguments with
  | .error interruption => .error interruption
  | .ok (given, []) => .ok given
  | .ok (_, _ :: _) => .error .misuse

/-- What help can be asked about: everything, or one command. -/
def helpTopics : List (List Text) :=
  [] :: ["send", "capabilities", "help"].map fun word => [word.toList]

/-- Read a command and its options. -/
def readCommand : List Text → Except Interruption Command
  | [] => .error .misuse
  | word :: rest =>
    if word = "send".toList then
      match commandOptions sendForms rest with
      | .error interruption => .error interruption
      | .ok given =>
        match given.lookup "language" with
        | none => .error .misuse
        | some language =>
          .ok (.send language ((given.lookup "input").getD [])
            (given.lookup "reset").isSome (given.lookup "json").isSome)
    else if word = "capabilities".toList then
      (commandOptions capabilitiesForms rest).map fun _ => .capabilities
    else if word = "help".toList ∧ rest ∈ helpTopics then .error .help
    else .error .misuse

/-- Read all arguments of the client. -/
def ofArguments (arguments : List Text) : Except Interruption Invocation :=
  match Arguments.readOptions commonForms none [] arguments with
  | .error interruption => .error interruption
  | .ok (given, rest) =>
    (readCommand rest).map fun command =>
      { settingsFile := given.lookup "config"
        socket := given.lookup "socket"
        patience := ((given.lookup "settle-ms").bind OptionForm.milliseconds?).getD defaultPatience
        command }

end Invocation

end Typeahead

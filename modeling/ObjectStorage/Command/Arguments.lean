/-!
# The words of a command line

* `Subcommand`, `Flag`: the commands, and the options that come before one.
* `Request`: what a command line asks for.
* `Flag.readAll`: the options in front of the first other word; a lone `--` ends them.
* `Words.readAll`: the words after a command, where options may stand between others.
* `Request.parse`: the request of a command line.
-/

namespace ObjectStorage.Command

/-- A command. -/
inductive Subcommand
  /-- Print the settings. -/
  | display
  /-- Check the settings and the client configuration made of them. -/
  | validate
  deriving DecidableEq, Repr

/-- The command of a name. -/
def Subcommand.ofName? : String → Option Subcommand
  | "show" => some .display
  | "validate" => some .validate
  | _ => none

/-- An option that comes before a command. -/
inductive Flag
  | json
  | version
  | help
  deriving DecidableEq, Repr

/-- The option of a word. -/
def Flag.ofWord? : String → Option Flag
  | "--json" => some .json
  | "--version" => some .version
  | "--help" => some .help
  | _ => none

/-- What a command line asks for. -/
inductive Request
  /-- The help text, with the exit code that goes with it. -/
  | help (exitCode : Nat)
  /-- Nothing that makes sense. -/
  | usageError
  /-- The version. -/
  | version
  /-- A command, with or without JSON. -/
  | run (json : Bool) (command : Subcommand)
  deriving DecidableEq, Repr

/-- Whether a word is written like an option: a hyphen and something behind it. -/
def isOption (word : String) : Bool :=
  match word.toList with
  | '-' :: _ :: _ => true
  | _ => false

/-! ## Before the command -/

/-- The options in front of the first other word, and the words from there on; a lone `--` ends the
options and is left out. Fails at an option that does not exist. -/
def Flag.readAll : List String → Option (List Flag × List String)
  | [] => some ([], [])
  | word :: words =>
    if word = "--" then some ([], words)
    else if isOption word then
      match ofWord? word, readAll words with
      | some flag, some (flags, rest) => some (flag :: flags, rest)
      | _, _ => none
    else some ([], word :: words)

/-- The request of an option that wins over everything behind it. -/
def Flag.request? : Flag → Option Request
  | json => none
  | version => some .version
  | help => some (.help 0)

/-! ## After the command -/

/-- What stands behind a command. -/
structure Words where
  /-- Help is asked for. -/
  help : Bool
  /-- There are words that the command has no use for. -/
  stray : Bool
  deriving DecidableEq, Repr

/-- The words after a command; fails at an option that does not exist. -/
def Words.readAll : List String → Option Words
  | [] => some ⟨false, false⟩
  | word :: words =>
    if word = "--" then some ⟨false, !words.isEmpty⟩
    else if isOption word then
      if word = "--help" then (readAll words).map fun w => { w with help := true } else none
    else (readAll words).map fun w => { w with stray := true }

/-- The request of a command with the words after it. -/
def Subcommand.request (command : Subcommand) (json : Bool) (words : List String) : Request :=
  match Words.readAll words with
  | none => .usageError
  | some w =>
    if w.help then .help 0
    else if w.stray then .usageError
    else .run json command

/-! ## The whole line -/

/-- The request of words that begin with no command: they are read as options once more. -/
def Request.withoutCommand (words : List String) : Request :=
  match Flag.readAll words with
  | none => .usageError
  | some (flags, _) => (flags.findSome? Flag.request?).getD .usageError

/-- The request of a command line. Without any word, help comes with the exit code of an error. -/
def Request.parse (words : List String) : Request :=
  if words = [] then .help 2
  else
    match Flag.readAll words with
    | none => .usageError
    | some (flags, rest) =>
      match flags.findSome? Flag.request?, rest with
      | some request, _ => request
      | none, [] => .help 0
      | none, name :: more =>
        match Subcommand.ofName? name with
        | some command => command.request (flags.contains .json) more
        | none => withoutCommand (name :: more)

end ObjectStorage.Command

import ObjectStorage.Client.Basic
import ObjectStorage.Command.Arguments
import ObjectStorage.Document.Json
import ObjectStorage.Document.Outline
import ObjectStorage.Draft

/-!
# What a command prints

* `Report`: exit code, printed text, error text, and the fault that no handler took, if any.
* `Entries.print`: keyed documents as JSON or as an outline.
* `Report.invalid`: an invalid configuration, as JSON or as an error.
* `Report.display`, `Report.validate`: the two commands in an environment.
* `Refusal`: a client library that does not take the number of retries.
* `Response.ofWords`: the response to a command line.
-/

namespace ObjectStorage

/-! ## Printing -/

/-- Keyed documents as JSON or as an outline, unless an integer has too many digits. -/
def Entries.print (json : Bool) (es : Entries) : Except Fault String :=
  if Document.entriesWritable es then
    .ok (if json then (Document.object es).json else es.outline)
  else .error .tooManyDigits

/-- An error on a line. -/
def errorLine (message : String) : String := "Error: " ++ message ++ "\n"

namespace Command

/-- The exit code of a command that did its work. -/
def exitOk : Nat := 0

/-- The exit code of a client configuration that is refused, and of a fault that no handler took. -/
def exitError : Nat := 1

/-- The exit code of an invalid configuration. -/
def exitInvalid : Nat := 2

/-- The version of the command. -/
def version : String := "0.1.0"

/-- How a command ended. -/
structure Report where
  exitCode : Nat
  stdout : String
  stderr : String
  uncaught : Option Fault
  deriving DecidableEq

/-- A client library that does not take the number of retries it is given. -/
structure Refusal where
  provided : Int
  least : Int

/-- What such a library says. -/
def Refusal.message (r : Refusal) : String :=
  "Value provided to \"max_attempts\": " ++ String.ofList (Text.Numeral.integer r.provided) ++
    " must be an integer greater than or equal to " ++
    String.ofList (Text.Numeral.integer r.least) ++ "."

namespace Report

/-- A command that printed a text and did its work. -/
def done (text : String) : Report := ⟨exitOk, text, "", none⟩

/-- A command that a fault ended. -/
def crashed (e : Fault) : Report := ⟨exitError, "", "", some e⟩

/-- A printed text, or the fault of printing it. -/
def ofPrinted : Except Fault String → Report
  | .ok text => done text
  | .error e => crashed e

/-- The entries that say what is invalid. -/
def invalidEntries (e : InvalidConfiguration) : Entries :=
  [("valid", .flag false), ("field", .text e.field), ("error", .text e.message)]

/-- An invalid configuration, as JSON or as an error. -/
def invalid (json : Bool) (e : InvalidConfiguration) : Report :=
  if json then { ofPrinted ((invalidEntries e).print true) with exitCode := exitInvalid }
  else ⟨exitInvalid, "", errorLine e.message, none⟩

/-- A fault: an invalid configuration is reported, any other ends the command. -/
def ofFault (json : Bool) : Fault → Report
  | .configuration e => invalid json e
  | e => crashed e

/-- The settings of an environment. -/
def display (env : Environment) (json : Bool) : Report :=
  match env.settings with
  | .error e => ofFault json e
  | .ok s => ofPrinted (s.entries.print json)

/-- What is printed for settings that can be used. -/
def valid (json : Bool) : Report :=
  if json then ofPrinted (Entries.print true [("valid", .flag true)]) else done "OK\n"

/-- The client configuration, or what the client library says instead. -/
def configured (s : Settings) (json : Bool) : Option Refusal → Report
  | some r => ⟨exitError, "", errorLine ("Cannot build client config: " ++ r.message), none⟩
  | none =>
    match s.clientConfig with
    | .ok _ => valid json
    | .error e => ofFault json e

/-- Whether the settings of an environment can be used. -/
def validate (env : Environment) (json : Bool) (refusal : Option Refusal) : Report :=
  match env.settings with
  | .error e => ofFault json e
  | .ok s =>
    match s.check with
    | .error e => ofFault json e
    | .ok () => configured s json refusal

/-- The version, if it is known. -/
def ofVersion (known : Bool) : Report :=
  done ("cloudstore " ++ (if known then version else "unknown") ++ "\n")

end Report

/-- The response to a command line. -/
inductive Response
  | help (exitCode : Nat)
  | usageError
  | report (r : Report)

/-- The response to a command line in an environment. -/
def Response.ofWords (words : List String) (env : Environment) (versionKnown : Bool)
    (refusal : Option Refusal) : Response :=
  match Request.parse words with
  | .help code => .help code
  | .usageError => .usageError
  | .version => .report (.ofVersion versionKnown)
  | .run json .display => .report (.display env json)
  | .run json .validate => .report (.validate env json refusal)

end Command

end ObjectStorage

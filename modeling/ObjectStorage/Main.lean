import ObjectStorage.Command.Report

/-!
# The command

Prints the response to the words of the command line in the environment of the process.
-/

namespace ObjectStorage.Command

/-- A summary of the commands and options. -/
def helpText : String :=
  "Usage: cloudstore [--json] [--version] [--help] COMMAND\n\n" ++
    "Commands:\n" ++
    "  show      Print the settings taken from CLOUDSTORE_* environment variables.\n" ++
    "  validate  Check the settings and the client configuration made of them.\n"

/-- The variables that are set in the environment of the process. -/
def processEnvironment : IO Environment := do
  let found ← Variable.all.mapM fun v => do
    let value ← IO.getEnv v.name
    pure (value.map fun s => (v.name, s))
  pure (.ofTexts (found.filterMap id))

end ObjectStorage.Command

open ObjectStorage ObjectStorage.Command

/-- Runs the command and answers its exit code. -/
def main (words : List String) : IO UInt32 := do
  let env ← processEnvironment
  match Response.ofWords words env true none with
  | .help code =>
    IO.print helpText
    pure code.toUInt32
  | .usageError =>
    IO.eprint helpText
    pure 2
  | .report r =>
    IO.print r.stdout
    IO.eprint r.stderr
    match r.uncaught with
    | some e => IO.eprint (errorLine e.message)
    | none => pure ()
    pure r.exitCode.toUInt32

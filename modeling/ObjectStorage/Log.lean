import ObjectStorage.Environment.Variable
import ObjectStorage.Fault

/-!
# What an operation says besides its result

* `Record`: the debug records, with their wording.
* `Deprecation`: the warnings of setters that have a successor, with their wording.
* `Outcome`: a result or a fault, with the records and warnings in the order in which they arose.
-/

namespace ObjectStorage

/-- A debug record. -/
inductive Record
  /-- A field takes its value from the variable that is for it. -/
  | taken (field : Field) (source : Variable)
  /-- A build takes the write channel from a draft although one was set directly. -/
  | overridden
  /-- A client is about to be made. -/
  | creating (app : String) (endpoint : Option String) (transport : Transport)
  deriving DecidableEq

/-- A record on one line: its level, who made it, and what it says. -/
def Record.text : Record → String
  | taken field source =>
    "DEBUG cloudstore.config: option " ++ field.key ++ " set from " ++ source.name
  | overridden =>
    "DEBUG cloudstore.options: write-channel sub-builder overrides directly set options"
  | creating app endpoint transport =>
    let place := match endpoint with
      | none => "default"
      | some url => if url = "" then "default" else url
    "DEBUG cloudstore.clients: creating s3 client for app " ++ app ++ " (endpoint=" ++ place ++
      ", transport=" ++ transport.name ++ ")"

/-- A setter or getter that has a successor. -/
inductive Deprecation
  | createMarkerObjects
  | installWriteChannelDraft
  | getWriteChannelDraft
  deriving DecidableEq, Repr

/-- The warning of a deprecated call on one line. -/
def Deprecation.text : Deprecation → String
  | createMarkerObjects =>
    "DeprecationWarning: set_create_marker_objects() is deprecated. " ++
      "Use set_marker_file_creation_enabled() instead."
  | installWriteChannelDraft =>
    "DeprecationWarning: set_write_channel_options_builder() is deprecated. " ++
      "Use set_write_channel_options() instead."
  | getWriteChannelDraft =>
    "DeprecationWarning: get_write_channel_options_builder() is deprecated. " ++
      "Use set_write_channel_options() instead."

/-- A result or a fault, with what was recorded and warned about on the way. -/
structure Outcome (α : Type) where
  result : Except Fault α
  log : List Record
  warnings : List Deprecation

namespace Outcome

variable {α β : Type}

/-- A result and nothing else. -/
def done (a : α) : Outcome α := ⟨.ok a, [], []⟩

/-- A fault and nothing else. -/
def fail (e : Fault) : Outcome α := ⟨.error e, [], []⟩

/-- A result or a fault and nothing else. -/
def ofExcept (r : Except Fault α) : Outcome α := ⟨r, [], []⟩

/-- Another operation after this one, if this one has a result. -/
def andThen (o : Outcome α) (f : α → Outcome β) : Outcome β :=
  match o.result with
  | .error e => ⟨.error e, o.log, o.warnings⟩
  | .ok a =>
    let next := f a
    ⟨next.result, o.log ++ next.log, o.warnings ++ next.warnings⟩

/-- The outcome with its result replaced by a function of it. -/
def map (f : α → β) (o : Outcome α) : Outcome β :=
  ⟨o.result.map f, o.log, o.warnings⟩

end Outcome

end ObjectStorage

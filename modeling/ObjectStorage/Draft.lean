import ObjectStorage.Environment.Resolution
import ObjectStorage.Log
import ObjectStorage.Settings.Partial

/-!
# Drafts of settings

A draft collects settings until they are built. Its write channel is set directly or taken from a
write-channel draft, which several drafts may share; once a draft has asked for one or been given
one, what was set directly no longer counts.

* `ChannelSource`: where a draft takes its write channel from.
* `Setter`: the fields and the deprecated second name of one of them.
* `Draft`, with `Draft.assign` and `Draft.install`: one field with a new value; a write-channel draft to
  take from.
* `bare`, `fresh`, `reopen`: a draft without defaults, and one after the setters for all defaults or for all
  fields of finished settings.
* `Draft.build`: the settings, given what the write-channel drafts hold now.
* `Environment.draft`: a draft with all defaults, after the setters for what an environment gives.
* `Environment.settings`: the settings that this draft is built to.
-/

namespace ObjectStorage

/-- The place of a write-channel draft among all of them. -/
abbrev ChannelId := Nat

/-- Where a draft takes its write channel from: what was set directly, or a write-channel draft. -/
inductive ChannelSource
  | direct
  | drafted
  deriving DecidableEq, Repr

/-- The word for where a draft takes its write channel from. -/
def ChannelSource.label : ChannelSource → String
  | direct => "direct"
  | drafted => "sub_builder"

/-! ## Setters -/

/-- What can be set on a draft: a field, or the marker files by their former name. -/
inductive Setter
  | field (f : Field)
  | createMarkerObjects
  deriving DecidableEq, Repr

namespace Setter

/-- The field that is set. -/
@[reducible] def target : Setter → Field
  | field f => f
  | createMarkerObjects => .markerFileCreation

/-- The warnings of the setter. -/
def warnings : Setter → List Deprecation
  | field _ => []
  | createMarkerObjects => [.createMarkerObjects]

/-- The setter of a name. -/
def ofKey? (name : String) : Option Setter :=
  if name = "create_marker_objects" then some .createMarkerObjects
  else (Field.ofKey? name).map .field

end Setter

/-! ## Drafts -/

/-- Settings in the making, with the source of the write channel and the write-channel draft that is held
for it. -/
structure Draft where
  fields : PartialSettings
  source : ChannelSource
  held? : Option ChannelId

namespace Draft

/-- A draft without defaults. -/
def bare : Draft := ⟨.bare, .direct, none⟩

/-- The draft with a new value in one field. -/
def assign (d : Draft) (f : Field) (v : f.Value) : Draft :=
  { d with fields := d.fields.assign f v }

/-- The draft, told to take its write channel from a write-channel draft. It may be given none. -/
def install (d : Draft) (held : Option ChannelId) : Draft :=
  { d with source := .drafted, held? := held }

/-- A draft with every documented default; the three texts are left out as they are from the start. -/
def fresh : Draft :=
  bare
    |>.assign .autoRepairImplicitDirectories Settings.default.autoRepairImplicitDirectories
    |>.assign .inferImplicitDirectories Settings.default.inferImplicitDirectories
    |>.assign .markerFileCreation Settings.default.markerFileCreation
    |>.assign .maxWaitMillisForEmptyObject Settings.default.maxWaitMillisForEmptyObject
    |>.assign .maxListItemsPerCall Settings.default.maxListItemsPerCall
    |>.assign .maxRequestsPerBatch Settings.default.maxRequestsPerBatch
    |>.assign .batchThreads Settings.default.batchThreads
    |>.assign .maxHttpRequestRetries Settings.default.maxHttpRequestRetries
    |>.assign .connectTimeout Settings.default.connectTimeout
    |>.assign .readTimeout Settings.default.readTimeout
    |>.assign .transport Settings.default.transport
    |>.assign .serverSideCopy Settings.default.serverSideCopy
    |>.assign .writeChannel Settings.default.writeChannel
    |>.assign .requesterPays Settings.default.requesterPays

/-- A draft with the fields of finished settings. -/
def reopen (s : Settings) : Draft :=
  bare
    |>.assign .projectId s.projectId
    |>.assign .appName s.appName
    |>.assign .autoRepairImplicitDirectories s.autoRepairImplicitDirectories
    |>.assign .inferImplicitDirectories s.inferImplicitDirectories
    |>.assign .markerFileCreation s.markerFileCreation
    |>.assign .maxWaitMillisForEmptyObject s.maxWaitMillisForEmptyObject
    |>.assign .maxListItemsPerCall s.maxListItemsPerCall
    |>.assign .maxRequestsPerBatch s.maxRequestsPerBatch
    |>.assign .batchThreads s.batchThreads
    |>.assign .maxHttpRequestRetries s.maxHttpRequestRetries
    |>.assign .connectTimeout s.connectTimeout
    |>.assign .readTimeout s.readTimeout
    |>.assign .transport s.transport
    |>.assign .proxyAddress s.proxyAddress
    |>.assign .serverSideCopy s.serverSideCopy
    |>.assign .writeChannel s.writeChannel
    |>.assign .requesterPays s.requesterPays

/-! ## Building -/

/-- The fields as they are built: the write channel is that of the held draft if the draft takes it
from there, and it is a fault if none is held. -/
def settled (d : Draft) (content : ChannelId → WriteChannel) : Except Fault PartialSettings :=
  match d.source, d.held? with
  | .direct, _ => .ok d.fields
  | .drafted, none => .error .nothingInstalled
  | .drafted, some c => .ok (d.fields.assign .writeChannel (content c))

/-- The record of a write channel that was set directly and does not count. -/
def log (d : Draft) : List Record :=
  match d.source, d.held? with
  | .drafted, some _ => if (d.fields.get? .writeChannel).isSome then [.overridden] else []
  | _, _ => []

/-- The settings of a draft, given what the write-channel drafts hold now. -/
def build (d : Draft) (content : ChannelId → WriteChannel) : Outcome Settings where
  result := do
    let fields ← d.settled content
    fields.complete.mapError .missingFields
  log := d.log
  warnings := []

end Draft

/-! ## Drafts of environments -/

/-- The draft after one row of the table: if its variable has a value, the field is set and this is
recorded. -/
def Draft.take (os : List Override) (d : Draft) (row : Variable.Row) : Outcome Draft :=
  match Override.find? row.source os with
  | none => .done d
  | some x => ⟨.ok (d.assign row.target (row.value x)), [.taken row.target row.source], []⟩

/-- The draft after some rows of the table in their order. -/
def Draft.takeAll (os : List Override) (d : Draft) : List Variable.Row → Outcome Draft
  | [] => .done d
  | row :: rows => (d.take os row).andThen (takeAll os · rows)

/-- The requester-pays value of the variables for its parts, if one of them has a value. A part whose
variable has none is as if nobody but the owner paid. -/
def Override.requesterPays? (os : List Override) : Option RequesterPays :=
  let mode := find? .payerMode os
  let project := find? .payerProject os
  let buckets := find? .payerBuckets os
  if mode.isSome || project.isSome || buckets.isSome then
    some ⟨mode.getD .disabled, project, buckets.getD .empty⟩
  else none

/-- The draft with this value set, if there is one. -/
def Draft.takeRequesterPays (os : List Override) (d : Draft) : Draft :=
  match Override.requesterPays? os with
  | none => d
  | some r => d.assign .requesterPays r

/-- A draft with the settings of an environment. -/
def Environment.draft (env : Environment) : Outcome Draft :=
  match env.overrides with
  | .error e => .fail (.configuration e)
  | .ok os => (Draft.fresh.takeAll os Variable.table).map (.takeRequesterPays os)

/-- The settings of an environment: what its draft is built to. It holds no write-channel draft. -/
def Environment.settings (env : Environment) : Except Fault Settings := do
  let d ← env.draft.result
  (d.build fun _ => .default).result

end ObjectStorage

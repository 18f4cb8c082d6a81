import ObjectStorage.Document.Basic
import ObjectStorage.RequesterPays.Basic
import ObjectStorage.Settings.Field
import ObjectStorage.Transport
import ObjectStorage.WriteChannel

/-!
# Settings

* `Field.kind`, `Field.Value`: what kind of value a field holds, and the type of these values.
* `Settings`: one value for every field; `Settings.default`: the documented ones.
* `get`, `set`, `ofFields`: reading one field, replacing one, and building from a value for each.
* `get_set_self`, `get_set_of_ne`, `ext_get`: replacing a field changes that field alone, and
  settings are determined by their fields.
* `Settings.document`: every field under its key, in declaration order.
-/

namespace ObjectStorage

/-! ## Kinds of values -/

/-- The kinds of values that settings hold. -/
inductive Kind
  | text
  | flag
  | number
  | transport
  | writeChannel
  | requesterPays
  deriving DecidableEq, Repr

/-- The values of a kind; a text may be left out. -/
@[reducible] def Kind.Value : Kind → Type
  | text => Option String
  | flag => Bool
  | number => Int
  | transport => Transport
  | writeChannel => WriteChannel
  | requesterPays => RequesterPays

instance : (k : Kind) → DecidableEq k.Value
  | .text => inferInstanceAs (DecidableEq (Option String))
  | .flag => inferInstanceAs (DecidableEq Bool)
  | .number => inferInstanceAs (DecidableEq Int)
  | .transport => inferInstanceAs (DecidableEq Transport)
  | .writeChannel => inferInstanceAs (DecidableEq WriteChannel)
  | .requesterPays => inferInstanceAs (DecidableEq RequesterPays)

/-- The kind of a field's values. -/
@[reducible] def Field.kind : Field → Kind
  | projectId => .text
  | appName => .text
  | autoRepairImplicitDirectories => .flag
  | inferImplicitDirectories => .flag
  | markerFileCreation => .flag
  | maxWaitMillisForEmptyObject => .number
  | maxListItemsPerCall => .number
  | maxRequestsPerBatch => .number
  | batchThreads => .number
  | maxHttpRequestRetries => .number
  | connectTimeout => .number
  | readTimeout => .number
  | transport => .transport
  | proxyAddress => .text
  | serverSideCopy => .flag
  | writeChannel => .writeChannel
  | requesterPays => .requesterPays

/-- The type of a field's values. -/
@[reducible] def Field.Value (f : Field) : Type := f.kind.Value

/-! ## Settings and their fields -/

/-- One value for every field of a storage client's settings. Times are in milliseconds. -/
structure Settings where
  projectId : Option String
  appName : Option String
  autoRepairImplicitDirectories : Bool
  inferImplicitDirectories : Bool
  markerFileCreation : Bool
  maxWaitMillisForEmptyObject : Int
  maxListItemsPerCall : Int
  maxRequestsPerBatch : Int
  batchThreads : Int
  maxHttpRequestRetries : Int
  connectTimeout : Int
  readTimeout : Int
  transport : Transport
  proxyAddress : Option String
  serverSideCopy : Bool
  writeChannel : WriteChannel
  requesterPays : RequesterPays
  deriving DecidableEq

namespace Settings

/-- The documented default of every field. -/
def default : Settings where
  projectId := none
  appName := none
  autoRepairImplicitDirectories := true
  inferImplicitDirectories := true
  markerFileCreation := false
  maxWaitMillisForEmptyObject := 3000
  maxListItemsPerCall := 1024
  maxRequestsPerBatch := 30
  batchThreads := 0
  maxHttpRequestRetries := 10
  connectTimeout := 20000
  readTimeout := 20000
  transport := .default
  proxyAddress := none
  serverSideCopy := false
  writeChannel := .default
  requesterPays := .default

/-- The value of a field. -/
def get (s : Settings) : (f : Field) → f.Value
  | .projectId => s.projectId
  | .appName => s.appName
  | .autoRepairImplicitDirectories => s.autoRepairImplicitDirectories
  | .inferImplicitDirectories => s.inferImplicitDirectories
  | .markerFileCreation => s.markerFileCreation
  | .maxWaitMillisForEmptyObject => s.maxWaitMillisForEmptyObject
  | .maxListItemsPerCall => s.maxListItemsPerCall
  | .maxRequestsPerBatch => s.maxRequestsPerBatch
  | .batchThreads => s.batchThreads
  | .maxHttpRequestRetries => s.maxHttpRequestRetries
  | .connectTimeout => s.connectTimeout
  | .readTimeout => s.readTimeout
  | .transport => s.transport
  | .proxyAddress => s.proxyAddress
  | .serverSideCopy => s.serverSideCopy
  | .writeChannel => s.writeChannel
  | .requesterPays => s.requesterPays

/-- The settings that have a given value in every field. -/
def ofFields (v : (f : Field) → f.Value) : Settings where
  projectId := v .projectId
  appName := v .appName
  autoRepairImplicitDirectories := v .autoRepairImplicitDirectories
  inferImplicitDirectories := v .inferImplicitDirectories
  markerFileCreation := v .markerFileCreation
  maxWaitMillisForEmptyObject := v .maxWaitMillisForEmptyObject
  maxListItemsPerCall := v .maxListItemsPerCall
  maxRequestsPerBatch := v .maxRequestsPerBatch
  batchThreads := v .batchThreads
  maxHttpRequestRetries := v .maxHttpRequestRetries
  connectTimeout := v .connectTimeout
  readTimeout := v .readTimeout
  transport := v .transport
  proxyAddress := v .proxyAddress
  serverSideCopy := v .serverSideCopy
  writeChannel := v .writeChannel
  requesterPays := v .requesterPays

/-- The settings with one field replaced. -/
def set (s : Settings) : (f : Field) → f.Value → Settings
  | .projectId, v => { s with projectId := v }
  | .appName, v => { s with appName := v }
  | .autoRepairImplicitDirectories, v => { s with autoRepairImplicitDirectories := v }
  | .inferImplicitDirectories, v => { s with inferImplicitDirectories := v }
  | .markerFileCreation, v => { s with markerFileCreation := v }
  | .maxWaitMillisForEmptyObject, v => { s with maxWaitMillisForEmptyObject := v }
  | .maxListItemsPerCall, v => { s with maxListItemsPerCall := v }
  | .maxRequestsPerBatch, v => { s with maxRequestsPerBatch := v }
  | .batchThreads, v => { s with batchThreads := v }
  | .maxHttpRequestRetries, v => { s with maxHttpRequestRetries := v }
  | .connectTimeout, v => { s with connectTimeout := v }
  | .readTimeout, v => { s with readTimeout := v }
  | .transport, v => { s with transport := v }
  | .proxyAddress, v => { s with proxyAddress := v }
  | .serverSideCopy, v => { s with serverSideCopy := v }
  | .writeChannel, v => { s with writeChannel := v }
  | .requesterPays, v => { s with requesterPays := v }

@[simp] theorem get_ofFields (v : (f : Field) → f.Value) (f : Field) : (ofFields v).get f = v f := by
  cases f <;> rfl

@[simp] theorem ofFields_get (s : Settings) : ofFields s.get = s := rfl

@[simp] theorem get_set_self (s : Settings) (f : Field) (v : f.Value) : (s.set f v).get f = v := by
  cases f <;> rfl

/-- Replacing a field leaves every other field as it was. -/
theorem get_set_of_ne (s : Settings) {f g : Field} (h : g ≠ f) (v : f.Value) :
    (s.set f v).get g = s.get g := by
  cases f <;> cases g <;> first | rfl | exact absurd rfl h

/-- Settings are determined by their fields. -/
theorem ext_get {a b : Settings} (h : ∀ f, a.get f = b.get f) : a = b := by
  rw [← ofFields_get a, ← ofFields_get b, funext h]

/-- Replacing a field by the value that it has changes nothing. -/
@[simp] theorem set_get_self (s : Settings) (f : Field) : s.set f (s.get f) = s := by
  cases f <;> rfl

end Settings

/-! ## Settings as documents -/

/-- The buffering of a write channel under the keys of its four settings. -/
def WriteChannel.document (w : WriteChannel) : Document :=
  .object [("buffer_size", .number w.bufferSize), ("pipe_buffer_size", .number w.pipeBufferSize),
    ("upload_chunk_size", .number w.uploadChunkSize),
    ("direct_upload_enabled", .flag w.directUpload)]

/-- Mode, project and bucket names, the names ascending by code point. -/
def RequesterPays.document (r : RequesterPays) : Document :=
  .object [("mode", .text r.mode.name), ("project_id", .ofOption r.project),
    ("buckets", .list (r.buckets.names.map .text))]

/-- The document of one value. -/
def Kind.document : (k : Kind) → k.Value → Document
  | .text, v => .ofOption v
  | .flag, v => .flag v
  | .number, v => .number v
  | .transport, v => .text v.name
  | .writeChannel, v => v.document
  | .requesterPays, v => v.document

/-- Every field under its key, in declaration order. -/
def Settings.entries (s : Settings) : Entries :=
  Field.all.map fun f => (f.key, f.kind.document (s.get f))

/-- The settings as one document. -/
def Settings.document (s : Settings) : Document := .object s.entries

end ObjectStorage

import ObjectStorage.Settings.Basic

/-!
# Environment variables

* `Variable`: the 18 variables that settings are taken from, in the order in which they are read.
* `Variable.name`: the full name of a variable.
* `Variable.form`, `Variable.Value`: the form in which a variable is written, and the type of its values.
* `Variable.table`, `Variable.field?`: the variables that set a field as a whole, with that field; the last
  three variables set the parts of the field `requesterPays` instead.
-/

namespace ObjectStorage

/-- An environment variable that settings are taken from. -/
inductive Variable
  | projectId
  | appName
  | autoRepairImplicitDirectories
  | inferImplicitDirectories
  | markerFileCreation
  | maxWaitMillisForEmptyObject
  | maxListItemsPerCall
  | maxRequestsPerBatch
  | batchThreads
  | maxHttpRequestRetries
  | connectTimeout
  | readTimeout
  | transport
  | proxyAddress
  | serverSideCopy
  | payerMode
  | payerProject
  | payerBuckets
  deriving DecidableEq, Repr

namespace Variable

/-- Every variable, in the order in which they are read. -/
def all : List Variable :=
  [.projectId, .appName, .autoRepairImplicitDirectories, .inferImplicitDirectories,
    .markerFileCreation, .maxWaitMillisForEmptyObject, .maxListItemsPerCall, .maxRequestsPerBatch,
    .batchThreads, .maxHttpRequestRetries, .connectTimeout, .readTimeout, .transport,
    .proxyAddress, .serverSideCopy, .payerMode, .payerProject, .payerBuckets]

/-- The list of variables is complete. -/
@[simp] theorem mem_all (v : Variable) : v ∈ all := by
  cases v <;> decide

/-- The list of variables repeats none. -/
theorem nodup_all : all.Nodup := by decide

/-! ## Names -/

/-- What the name of every variable begins with. -/
def namespaceMark : String := "CLOUDSTORE_"

/-- The name of a variable after the common beginning. -/
def label : Variable → String
  | projectId => "PROJECT_ID"
  | appName => "APP_NAME"
  | autoRepairImplicitDirectories => "AUTO_REPAIR_IMPLICIT_DIRECTORIES"
  | inferImplicitDirectories => "INFER_IMPLICIT_DIRECTORIES"
  | markerFileCreation => "MARKER_FILE_CREATION"
  | maxWaitMillisForEmptyObject => "MAX_WAIT_MILLIS_FOR_EMPTY_OBJECT_CREATION"
  | maxListItemsPerCall => "MAX_LIST_ITEMS_PER_CALL"
  | maxRequestsPerBatch => "MAX_REQUESTS_PER_BATCH"
  | batchThreads => "BATCH_THREADS"
  | maxHttpRequestRetries => "MAX_HTTP_REQUEST_RETRIES"
  | connectTimeout => "HTTP_CONNECT_TIMEOUT_MS"
  | readTimeout => "HTTP_READ_TIMEOUT_MS"
  | transport => "TRANSPORT_TYPE"
  | proxyAddress => "PROXY_ADDRESS"
  | serverSideCopy => "COPY_WITH_REWRITE"
  | payerMode => "REQUESTER_PAYS_MODE"
  | payerProject => "REQUESTER_PAYS_PROJECT_ID"
  | payerBuckets => "REQUESTER_PAYS_BUCKETS"

/-- The full name of a variable. -/
def name (v : Variable) : String := namespaceMark ++ v.label

/-! ## Values -/

/-- The forms in which the value of a variable is written. -/
inductive Form
  | text
  | flag
  | number
  | transport
  | mode
  | buckets
  deriving DecidableEq, Repr

/-- The values that a form stands for. -/
@[reducible] def Form.Value : Form → Type
  | text => String
  | flag => Bool
  | number => Int
  | transport => Transport
  | mode => RequesterPays.Mode
  | buckets => Buckets

/-- The form in which a variable is written. -/
@[reducible] def form : Variable → Form
  | projectId => .text
  | appName => .text
  | autoRepairImplicitDirectories => .flag
  | inferImplicitDirectories => .flag
  | markerFileCreation => .flag
  | maxWaitMillisForEmptyObject => .number
  | maxListItemsPerCall => .number
  | maxRequestsPerBatch => .number
  | batchThreads => .number
  | maxHttpRequestRetries => .number
  | connectTimeout => .number
  | readTimeout => .number
  | transport => .transport
  | proxyAddress => .text
  | serverSideCopy => .flag
  | payerMode => .mode
  | payerProject => .text
  | payerBuckets => .buckets

/-- The type of a variable's values. -/
@[reducible] def Value (v : Variable) : Type := v.form.Value

/-! ## What a variable sets -/

/-- A variable with the field that it sets as a whole, and what its values are there. -/
structure Row where
  source : Variable
  target : Field
  value : source.Value → target.Value

/-- The variables that set a field as a whole, in the order in which they are read. -/
def table : List Row :=
  [⟨projectId, .projectId, some⟩,
    ⟨appName, .appName, some⟩,
    ⟨autoRepairImplicitDirectories, .autoRepairImplicitDirectories, id⟩,
    ⟨inferImplicitDirectories, .inferImplicitDirectories, id⟩,
    ⟨markerFileCreation, .markerFileCreation, id⟩,
    ⟨maxWaitMillisForEmptyObject, .maxWaitMillisForEmptyObject, id⟩,
    ⟨maxListItemsPerCall, .maxListItemsPerCall, id⟩,
    ⟨maxRequestsPerBatch, .maxRequestsPerBatch, id⟩,
    ⟨batchThreads, .batchThreads, id⟩,
    ⟨maxHttpRequestRetries, .maxHttpRequestRetries, id⟩,
    ⟨connectTimeout, .connectTimeout, id⟩,
    ⟨readTimeout, .readTimeout, id⟩,
    ⟨transport, .transport, id⟩,
    ⟨proxyAddress, .proxyAddress, some⟩,
    ⟨serverSideCopy, .serverSideCopy, id⟩]

/-- The field that a variable sets as a whole. -/
def field? (v : Variable) : Option Field :=
  (table.find? fun row => row.source = v).map Row.target

/-- The field that a variable sets, as a whole or in part. -/
def target (v : Variable) : Field := v.field?.getD .requesterPays

end Variable

end ObjectStorage

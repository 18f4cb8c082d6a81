/-!
# The fields of a client's settings

* `Field`: the 17 settings of a storage client, in the order in which they are declared and written.
* `Field.all`: every field once, in that order.
* `Field.key`: the name under which a field is read and written.
* `mem_all`, `nodup_all`: the list of fields is complete and repeats none.
-/

namespace ObjectStorage

/-- One setting of a storage client. -/
inductive Field
  | projectId
  | appName
  | autoRepairImplicitDirectories
  | inferImplicitDirectories
  | markerFileCreation
  | maxWaitMillisForEmptyObject
  | maxListItemsPerCall
  | maxRequestsPerBatch
  | batchThreads
  | maxHttpRequestRetries
  | connectTimeout
  | readTimeout
  | transport
  | proxyAddress
  | serverSideCopy
  | writeChannel
  | requesterPays
  deriving DecidableEq, Repr

namespace Field

/-- Every field, in declaration order. -/
def all : List Field :=
  [.projectId, .appName, .autoRepairImplicitDirectories, .inferImplicitDirectories,
    .markerFileCreation, .maxWaitMillisForEmptyObject, .maxListItemsPerCall, .maxRequestsPerBatch,
    .batchThreads, .maxHttpRequestRetries, .connectTimeout, .readTimeout, .transport,
    .proxyAddress, .serverSideCopy, .writeChannel, .requesterPays]

/-- The name under which a field is read and written. -/
def key : Field → String
  | projectId => "project_id"
  | appName => "app_name"
  | autoRepairImplicitDirectories => "auto_repair_implicit_directories_enabled"
  | inferImplicitDirectories => "infer_implicit_directories_enabled"
  | markerFileCreation => "marker_file_creation_enabled"
  | maxWaitMillisForEmptyObject => "max_wait_millis_for_empty_object_creation"
  | maxListItemsPerCall => "max_list_items_per_call"
  | maxRequestsPerBatch => "max_requests_per_batch"
  | batchThreads => "batch_threads"
  | maxHttpRequestRetries => "max_http_request_retries"
  | connectTimeout => "http_request_connect_timeout"
  | readTimeout => "http_request_read_timeout"
  | transport => "transport_type"
  | proxyAddress => "proxy_address"
  | serverSideCopy => "copy_with_rewrite_enabled"
  | writeChannel => "write_channel_options"
  | requesterPays => "requester_pays_options"

/-- The field of a name, if there is one. -/
def ofKey? (name : String) : Option Field :=
  all.find? fun f => f.key = name

/-- The list of fields is complete. -/
@[simp] theorem mem_all (f : Field) : f ∈ all := by
  cases f <;> decide

/-- The list of fields repeats none. -/
theorem nodup_all : all.Nodup := by decide

end Field

end ObjectStorage

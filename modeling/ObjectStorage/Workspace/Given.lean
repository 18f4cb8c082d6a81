import ObjectStorage.Workspace.Basic

/-!
# Values as they are given

* `Given`: a value for a field as it is handed over; it may be the name of a finished value.
* `Given.read`: the value of a kind that it stands for.
* `Setting`, `Draft.applyAll`: setters with given values, applied in order to a draft.
* `Value.replace`: a finished value with one field replaced.
-/

namespace ObjectStorage

/-- A value for a field as it is handed over. -/
inductive Given
  | text (s : Option String)
  | flag (b : Bool)
  | number (n : Int)
  | texts (items : List String)
  | writeChannel (w : WriteChannel)
  | requesterPays (b : Billing)
  | named (name : String)

namespace Given

/-- The value of a kind that a given one stands for, where names stand for finished values. -/
def read (value? : String → Option Value) : (k : Kind) → Given → Except Fault k.Value
  | .text, .text s => .ok s
  | .flag, .flag b => .ok b
  | .number, .number n => .ok n
  | .transport, .text (some name) => Transport.ofName name
  | .writeChannel, .writeChannel w => .ok w
  | .writeChannel, .named name =>
    match value? name with
    | some (.writeChannel w) => .ok w
    | _ => .error (.noObject name)
  | .requesterPays, .requesterPays b => b.make
  | .requesterPays, .named name =>
    match value? name with
    | some (.requesterPays r) => .ok r
    | _ => .error (.noObject name)
  | _, _ => .error .mistyped

end Given

/-! ## Settings for a draft -/

/-- A setter with a given value. -/
structure Setting where
  setter : Setter
  given : Given

namespace Draft

/-- The draft after one setter, with the warnings of the setter. -/
def applySetting (value? : String → Option Value) (d : Draft) (x : Setting) : Outcome Draft :=
  match x.given.read value? x.setter.target.kind with
  | .error e => .fail e
  | .ok v => ⟨.ok (d.assign x.setter.target v), [], x.setter.warnings⟩

/-- The draft after some setters in their order, up to the first fault. -/
def applyAll (d : Draft) : List Setting → Outcome Draft
  | [] => .done d
  | x :: xs => (d.applySetting (fun _ => none) x).andThen (applyAll · xs)

end Draft

/-- The settings that a list of setters makes of the defaults. -/
def Settings.assembled (xs : List Setting) : Outcome Settings :=
  (Draft.fresh.applyAll xs).andThen fun d => d.build fun _ => .default

/-! ## Finished values with one field replaced -/

/-- What the constructor of settings is called in faults. -/
def Settings.recordName : String := "StorageOptions"

/-- What the constructor of write channels is called in faults. -/
def WriteChannel.recordName : String := "AsyncWriteChannelOptions"

/-- What the constructor of requester-pays values is called in faults. -/
def RequesterPays.recordName : String := "RequesterPaysOptions"

/-- The name of the record itself in its constructor. -/
def receiver : String := "self"

/-- The fault of a name that is no field of a record. -/
def noField (record name : String) : Fault :=
  if name = receiver then .reservedField record name else .unknownField record name

namespace Settings

/-- Settings with the field of a name replaced. -/
def replace (value? : String → Option Value) (s : Settings) (field : String) (x : Given) :
    Except Fault Settings :=
  match Field.ofKey? field with
  | none => .error (noField recordName field)
  | some f => (x.read value? f.kind).map (s.set f)

end Settings

namespace WriteChannel

/-- The names of the four settings. -/
def keys : List String :=
  ["buffer_size", "pipe_buffer_size", "upload_chunk_size", "direct_upload_enabled"]

/-- The change of the setting of a name to a given value. -/
def change (field : String) (x : Given) : Except Fault Change :=
  match field, x with
  | "buffer_size", .number n => .ok (.bufferSize n)
  | "pipe_buffer_size", .number n => .ok (.pipeBufferSize n)
  | "upload_chunk_size", .number n => .ok (.uploadChunkSize n)
  | "direct_upload_enabled", .flag b => .ok (.directUpload b)
  | _, _ => .error (if field ∈ keys then .mistyped else noField recordName field)

end WriteChannel

namespace RequesterPays

/-- The names of the three parts. -/
def keys : List String := ["mode", "project_id", "buckets"]

/-- A requester-pays value with the field of a name replaced. -/
def replace (r : RequesterPays) (field : String) (x : Given) : Except Fault RequesterPays :=
  match field, x with
  | "mode", .text (some name) => (Mode.ofName name).map fun m => { r with mode := m }
  | "project_id", .text s => .ok { r with project := s }
  | "buckets", .texts names => .ok { r with buckets := .ofList names }
  | _, _ => .error (if field ∈ keys then .mistyped else noField recordName field)

end RequesterPays

/-- A finished value with the field of a name replaced. -/
def Value.replace (value? : String → Option Value) (field : String) (x : Given) :
    Value → Except Fault Value
  | settings s => (s.replace value? field x).map .settings
  | writeChannel w => (WriteChannel.change field x).map (.writeChannel <| w.apply ·)
  | requesterPays r => (r.replace field x).map .requesterPays

end ObjectStorage

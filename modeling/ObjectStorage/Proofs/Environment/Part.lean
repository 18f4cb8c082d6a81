import ObjectStorage.Environment.Variable

/-!
# The part of the settings that a variable is for

* `Form.Part`, `Form.part`: what a value of a form becomes in the settings; a text may be left out there.
* `Variable.part`, `Variable.put`: the part of some settings that a variable is for, and the settings with
  that part replaced.
* `part_put_self`, `part_put_of_ne`: putting a variable's value in place changes its own part alone.
* `get_eq_of_parts`, `ext_part`: a field is determined by the parts of the variables that set it, and settings by
  all parts and the write channel, for which there is no variable.
-/

namespace ObjectStorage.Variable

namespace Form

/-- The type of what a value of a form becomes in the settings. -/
@[reducible] def Part : Form → Type
  | text => Option String
  | flag => Bool
  | number => Int
  | transport => Transport
  | mode => RequesterPays.Mode
  | buckets => Buckets

/-- What a value of a form becomes in the settings. -/
def part : (k : Form) → k.Value → k.Part
  | text, s => some s
  | flag, b => b
  | number, n => n
  | transport, t => t
  | mode, m => m
  | buckets, b => b

end Form

/-- The part of some settings that a variable is for. -/
def part (s : Settings) : (v : Variable) → v.form.Part
  | projectId => s.projectId
  | appName => s.appName
  | autoRepairImplicitDirectories => s.autoRepairImplicitDirectories
  | inferImplicitDirectories => s.inferImplicitDirectories
  | markerFileCreation => s.markerFileCreation
  | maxWaitMillisForEmptyObject => s.maxWaitMillisForEmptyObject
  | maxListItemsPerCall => s.maxListItemsPerCall
  | maxRequestsPerBatch => s.maxRequestsPerBatch
  | batchThreads => s.batchThreads
  | maxHttpRequestRetries => s.maxHttpRequestRetries
  | connectTimeout => s.connectTimeout
  | readTimeout => s.readTimeout
  | transport => s.transport
  | proxyAddress => s.proxyAddress
  | serverSideCopy => s.serverSideCopy
  | payerMode => s.requesterPays.mode
  | payerProject => s.requesterPays.project
  | payerBuckets => s.requesterPays.buckets

/-- The settings with a variable's part of them replaced. -/
def put (s : Settings) : (v : Variable) → v.Value → Settings
  | .projectId, x => { s with projectId := some x }
  | .appName, x => { s with appName := some x }
  | .autoRepairImplicitDirectories, x => { s with autoRepairImplicitDirectories := x }
  | .inferImplicitDirectories, x => { s with inferImplicitDirectories := x }
  | .markerFileCreation, x => { s with markerFileCreation := x }
  | .maxWaitMillisForEmptyObject, x => { s with maxWaitMillisForEmptyObject := x }
  | .maxListItemsPerCall, x => { s with maxListItemsPerCall := x }
  | .maxRequestsPerBatch, x => { s with maxRequestsPerBatch := x }
  | .batchThreads, x => { s with batchThreads := x }
  | .maxHttpRequestRetries, x => { s with maxHttpRequestRetries := x }
  | .connectTimeout, x => { s with connectTimeout := x }
  | .readTimeout, x => { s with readTimeout := x }
  | .transport, x => { s with transport := x }
  | .proxyAddress, x => { s with proxyAddress := some x }
  | .serverSideCopy, x => { s with serverSideCopy := x }
  | .payerMode, x => { s with requesterPays := { s.requesterPays with mode := x } }
  | .payerProject, x => { s with requesterPays := { s.requesterPays with project := some x } }
  | .payerBuckets, x => { s with requesterPays := { s.requesterPays with buckets := x } }

@[simp] theorem part_put_self (s : Settings) (v : Variable) (x : v.Value) :
    part (put s v x) v = v.form.part x := by
  cases v <;> rfl

/-- Putting a value in place leaves the part of every other variable as it was. -/
theorem part_put_of_ne (s : Settings) {u v : Variable} (h : u ≠ v) (x : v.Value) :
    part (put s v x) u = part s u := by
  cases u <;> cases v <;> first | rfl | exact absurd rfl h

/-- No variable is for the write channel. -/
@[simp] theorem writeChannel_put (s : Settings) (v : Variable) (x : v.Value) :
    (put s v x).writeChannel = s.writeChannel := by
  cases v <;> rfl

/-- A field is determined by the parts of the variables that set it; the write channel has none. -/
theorem get_eq_of_parts {a b : Settings} (hw : a.writeChannel = b.writeChannel) {f : Field}
    (h : ∀ v : Variable, v.target = f → part a v = part b v) : a.get f = b.get f := by
  cases f with
  | projectId => exact h projectId rfl
  | appName => exact h appName rfl
  | autoRepairImplicitDirectories => exact h autoRepairImplicitDirectories rfl
  | inferImplicitDirectories => exact h inferImplicitDirectories rfl
  | markerFileCreation => exact h markerFileCreation rfl
  | maxWaitMillisForEmptyObject => exact h maxWaitMillisForEmptyObject rfl
  | maxListItemsPerCall => exact h maxListItemsPerCall rfl
  | maxRequestsPerBatch => exact h maxRequestsPerBatch rfl
  | batchThreads => exact h batchThreads rfl
  | maxHttpRequestRetries => exact h maxHttpRequestRetries rfl
  | connectTimeout => exact h connectTimeout rfl
  | readTimeout => exact h readTimeout rfl
  | transport => exact h transport rfl
  | proxyAddress => exact h proxyAddress rfl
  | serverSideCopy => exact h serverSideCopy rfl
  | writeChannel => exact hw
  | requesterPays =>
    -- the one field that three variables set
    have hmode : a.requesterPays.mode = b.requesterPays.mode := h payerMode rfl
    have hproject : a.requesterPays.project = b.requesterPays.project := h payerProject rfl
    have hbuckets : a.requesterPays.buckets = b.requesterPays.buckets := h payerBuckets rfl
    calc a.requesterPays
        = ⟨a.requesterPays.mode, a.requesterPays.project, a.requesterPays.buckets⟩ := rfl
      _ = ⟨b.requesterPays.mode, b.requesterPays.project, b.requesterPays.buckets⟩ := by
        rw [hmode, hproject, hbuckets]

/-- Settings are determined by the parts that variables are for and the write channel. -/
theorem ext_part {a b : Settings} (h : ∀ v, part a v = part b v)
    (hw : a.writeChannel = b.writeChannel) : a = b :=
  Settings.ext_get fun _ => get_eq_of_parts hw fun v _ => h v

end ObjectStorage.Variable

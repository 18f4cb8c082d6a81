import ObjectStorage.Fault
import ObjectStorage.RequesterPays.Buckets
import ObjectStorage.Text.Name

/-!
# Requester pays

* `RequesterPays.Mode`: when requests are billed to the caller instead of the owner of a bucket.
* `RequesterPays`: the mode, the project that is billed and the buckets that the mode `custom` is for.
* `RequesterPays.default`: no billing of the caller, no project, no buckets.
* `Mode.ofName?`, `Mode.parse?`: the mode of a name, letter for letter or up to case and blanks.
* `Billing`, `Billing.make`: the parts of such a value, the mode still a name, and the value.
-/

namespace ObjectStorage

/-- When requests are billed to the caller: never, always, where a bucket demands it, or for the
listed buckets. -/
inductive RequesterPays.Mode
  | disabled
  | enabled
  | auto
  | custom
  deriving DecidableEq, Repr

/-- Who pays for requests to buckets whose owner does not. -/
structure RequesterPays where
  mode : RequesterPays.Mode
  project : Option String
  buckets : Buckets
  deriving DecidableEq

namespace RequesterPays

namespace Mode

/-- Every mode, in declaration order. -/
def all : List Mode := [.disabled, .enabled, .auto, .custom]

/-- The name of a mode. -/
def name : Mode → String
  | disabled => "disabled"
  | enabled => "enabled"
  | auto => "auto"
  | custom => "custom"

/-- The mode of a name, letter for letter. -/
def ofName? (s : String) : Option Mode := Text.Name.spelled? all name s

/-- The mode of a name in any letter case and between any blanks. -/
def parse? (s : String) : Option Mode := Text.Name.folded? all name s

/-- The mode of a name, letter for letter, or a fault. -/
def ofName (s : String) : Except Fault Mode :=
  match ofName? s with
  | some m => .ok m
  | none => .error (.notAMode s)

@[simp] theorem ofName?_name (m : Mode) : ofName? m.name = some m := by
  cases m <;> decide

theorem name_injective {m m' : Mode} (h : m.name = m'.name) : m = m' := by
  rw [← Option.some_inj, ← ofName?_name m, ← ofName?_name m', h]

end Mode

/-- Nobody but the owner of a bucket pays. -/
def default : RequesterPays where
  mode := .disabled
  project := none
  buckets := .empty

end RequesterPays

/-! ## Parts that are not checked yet -/

/-- The parts of a requester-pays value, the mode still a name. -/
structure Billing where
  mode : String := RequesterPays.default.mode.name
  project : Option String := none
  buckets : List String := []

/-- The requester-pays value of its parts. -/
def Billing.make (b : Billing) : Except Fault RequesterPays :=
  (RequesterPays.Mode.ofName b.mode).map fun m => ⟨m, b.project, .ofList b.buckets⟩

end ObjectStorage

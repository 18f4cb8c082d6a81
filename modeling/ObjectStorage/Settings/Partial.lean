import ObjectStorage.Settings.Basic

/-!
# Settings with fields still missing

* `PartialSettings`: at most one value for each field.
* `bare`, `ofSettings`: nothing but the three optional texts left out, and every field of some settings.
* `assign`: one field with a new value; `get?_assign_self`, `get?_assign_of_ne` say what it changes.
* `missing`: the fields without a value, in declaration order.
* `complete`: the settings, or the missing fields; `complete_ofSettings` says that nothing is lost.
-/

namespace ObjectStorage

/-- At most one value for each field. -/
structure PartialSettings where
  get? : (f : Field) → Option f.Value

namespace PartialSettings

/-- The value that a field of a kind has from the start: a text is left out, others are missing. -/
def initial : (k : Kind) → Option k.Value
  | .text => some none
  | .flag => none
  | .number => none
  | .transport => none
  | .writeChannel => none
  | .requesterPays => none

/-- No field has a value but the three texts, which are left out. -/
def bare : PartialSettings := ⟨fun f => initial f.kind⟩

/-- Every field has the value that it has in `s`. -/
def ofSettings (s : Settings) : PartialSettings := ⟨fun f => some (s.get f)⟩

/-- The same values with one field replaced. -/
def assign (p : PartialSettings) (f : Field) (v : f.Value) : PartialSettings :=
  ⟨fun g => if h : f = g then some (h ▸ v) else p.get? g⟩

@[simp] theorem get?_assign_self (p : PartialSettings) (f : Field) (v : f.Value) :
    (p.assign f v).get? f = some v := by
  simp [assign]

theorem get?_assign_of_ne (p : PartialSettings) {f g : Field} (h : f ≠ g) (v : f.Value) :
    (p.assign f v).get? g = p.get? g := by
  simp [assign, h]

/-- The fields without a value, in declaration order. -/
def missing (p : PartialSettings) : List Field :=
  Field.all.filter fun f => (p.get? f).isNone

theorem isSome_of_missing_eq_nil {p : PartialSettings} (h : p.missing = []) (f : Field) :
    (p.get? f).isSome = true := by
  have hf := List.filter_eq_nil_iff.1 h f (Field.mem_all f)
  cases hv : p.get? f with
  | none => simp [hv] at hf
  | some v => rfl

/-- The settings, if no field is missing. -/
def complete (p : PartialSettings) : Except (List Field) Settings :=
  if h : p.missing = [] then
    .ok (.ofFields fun f => (p.get? f).get (isSome_of_missing_eq_nil h f))
  else .error p.missing

/-- The fields of completed settings are the values that were assigned. -/
theorem get_of_complete {p : PartialSettings} {s : Settings} (h : p.complete = .ok s) (f : Field) :
    p.get? f = some (s.get f) := by
  unfold complete at h
  split at h
  · cases h
    simp
  · cases h

@[simp] theorem missing_ofSettings (s : Settings) : (ofSettings s).missing = [] := by
  simp [missing, ofSettings]

/-- Completing the fields of some settings gives these settings. -/
@[simp] theorem complete_ofSettings (s : Settings) : (ofSettings s).complete = .ok s := by
  unfold complete
  rw [dif_pos (missing_ofSettings s)]
  simp [ofSettings]

end PartialSettings

end ObjectStorage

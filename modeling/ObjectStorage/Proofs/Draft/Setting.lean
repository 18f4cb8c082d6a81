import ObjectStorage.Proofs.Draft.Build
import ObjectStorage.Proofs.Draft.Seeds
import ObjectStorage.Workspace.Given

/-!
# Setting and replacing

* `Draft.setAll`: a draft after some setters in their order; one whose value cannot be used is passed over.
* `Settings.replaceAll`: settings in which the fields of the same setters are replaced one after the other.
* `Draft.directly_of_build`: a draft with direct source has the fields of the settings that it builds.
* `Directly.setAll`: setting on such a draft is replacing in the settings.
-/

namespace ObjectStorage

variable {value? : String → Option Value}

theorem Field.ofKey?_key (f : Field) : Field.ofKey? f.key = some f := by
  cases f <;> decide

/-! ## Replacing -/

namespace Settings

/-- The settings with the field of each setter replaced by its value, where that can be used. -/
def replaceAll (value? : String → Option Value) (s : Settings) (xs : List Setting) : Settings :=
  xs.foldl (fun s x => (s.replace value? x.setter.target.key x.given).toOption.getD s) s

/-- Replacing by the key of a field is setting that field. -/
theorem replace_key (s : Settings) (f : Field) (x : Given) :
    s.replace value? f.key x = (x.read value? f.kind).map (s.set f) := by
  rw [replace, Field.ofKey?_key]

end Settings

/-! ## Setting -/

namespace Draft

variable {d : Draft} {s : Settings} {content : ChannelId → WriteChannel}

/-- The draft after some setters in their order, where their values can be used. -/
def setAll (value? : String → Option Value) (d : Draft) (xs : List Setting) : Draft :=
  xs.foldl (fun d x => (d.applySetting value? x).result.toOption.getD d) d

/-- A draft with direct source has the fields of the settings that it builds. -/
theorem directly_of_build (hd : d.source = .direct) (h : (d.build content).result = .ok s) :
    d.Directly s := by
  refine ⟨?_, hd⟩
  obtain ⟨fields, hset, hcomplete⟩ := build_eq_ok_iff.mp h
  simp only [settled, hd, Except.ok.injEq] at hset
  subst hset
  exact congrArg PartialSettings.mk (funext (PartialSettings.get_of_complete hcomplete))

/-- Setters on a draft with the fields of settings do what replacing does in the settings. -/
theorem Directly.setAll (h : d.Directly s) (xs : List Setting) :
    (d.setAll value? xs).Directly (s.replaceAll value? xs) := by
  induction xs generalizing d s with
  | nil => exact h
  | cons x xs ih =>
    rw [Draft.setAll, Settings.replaceAll, List.foldl_cons, List.foldl_cons, applySetting,
      Settings.replace_key]
    cases x.given.read value? x.setter.target.kind with
    | error e => exact ih h
    | ok v => exact ih (h.assign x.setter.target v)

end Draft

end ObjectStorage

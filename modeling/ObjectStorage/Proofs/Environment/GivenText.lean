import ObjectStorage.Proofs.Environment.Entrywise

/-!
# Variables with a text

* `HasText`: where the value of a variable is a text, and not the empty one.
* `part_of_readable`: a text that has the form of its variable gives the variable's part of the settings.
* `readable_of_settings`: where there are settings, the text has that form.
* `settings_of_unreadable`: a text that does not have it is a fault that names the variable.
-/

namespace ObjectStorage.Environment

variable {env : Environment} {v : Variable} {s : String} {t : Settings}

/-- The value of a variable is a text, and not the empty one. -/
def HasText (env : Environment) (v : Variable) (s : String) : Prop :=
  env.entries.lookup v.name = some (.text s) ∧ s ≠ ""

theorem given?_of_hasText (h : env.HasText v s) : env.given? v = some (.text s) := by
  obtain ⟨hlookup, hne⟩ := h
  simp [given?, hlookup, hne]

/-- A single entry gives its variable its text. -/
theorem hasText_single (h : s ≠ "") : (ofTexts [(v.name, s)]).HasText v s := by
  refine ⟨?_, h⟩
  rw [lookup_ofTexts]
  simp

/-- A text that can be read gives the variable's part of the settings, if the other variables can be read. -/
theorem part_of_readable (hs : env.HasText v s) (hothers : ∀ u, u ≠ v → ∃ o, env.read? u = .ok o)
    {x : v.Value} (hx : v.form.read (.text s) = .ok x) :
    ∃ t, env.settings = .ok t ∧ v.part t = v.form.part x := by
  have hgiven := given?_of_hasText hs
  have hread : env.read? v = .ok (some ⟨v, x⟩) := read?_eq_ok_some_iff.mpr ⟨_, hgiven, hx⟩
  obtain ⟨t, ht⟩ := exists_settings hothers ⟨_, hread⟩
  exact ⟨t, ht, part_of_given ht hgiven hx⟩

/-- Where there are settings, the text of a variable can be read, as its part of them. -/
theorem readable_of_settings (hs : env.HasText v s) (ht : env.settings = .ok t) :
    ∃ x, v.form.read (.text s) = .ok x ∧ v.part t = v.form.part x := by
  have hgiven := given?_of_hasText hs
  obtain ⟨hread, -⟩ := settings_eq_ok_iff.mp ht
  obtain ⟨x, hx⟩ := exists_read?_eq_ok_iff.mp (hread v) _ hgiven
  exact ⟨x, hx, part_of_given ht hgiven hx⟩

/-- A text that cannot be read is a fault of the variable, unless one in front of it fails. -/
theorem settings_of_unreadable (hs : env.HasText v s) {u : Unreadable}
    (hu : v.form.read (.text s) = .error u)
    (hbefore : ∀ u, [u, v].Sublist Variable.all → ∃ o, env.read? u = .ok o) :
    env.settings = .error (.configuration (fault v u)) :=
  settings_of_fault (read?_eq_error_iff.mpr ⟨_, u, given?_of_hasText hs, hu, rfl⟩) hbefore

end ObjectStorage.Environment

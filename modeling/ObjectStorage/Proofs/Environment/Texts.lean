import ObjectStorage.Environment.Resolution

/-!
# Environments of texts

* `Sets E v s`: among the entries `E`, the variable `v` has the text `s`, and that is not empty;
  `isSet E v`: there is such a text.
* `given?_ofTexts_eq_some_iff`: a given value is always a text, and not the empty one.
* `given?_ofTexts_iff`: where no name occurs twice, a value is given if and only if an entry sets it, so
  that the order of the entries does not count.
* `given?_single_self`, `given?_single_of_ne`: the one variable that an environment of a single entry gives.
-/

namespace ObjectStorage

/-- No two variables have the same name. -/
theorem Variable.name_injective {u v : Variable} (h : u.name = v.name) : u = v := by
  have hlabel : u.label = v.label := by simpa [name] using h
  have hall : ∀ u ∈ all, ∀ v ∈ all, u.label = v.label → u = v := by decide
  exact hall u (mem_all u) v (mem_all v) hlabel

namespace Environment

variable {E : List (String × String)} {v : Variable} {s : String}

/-- Among some entries, a variable has a text that is not empty. -/
def Sets (E : List (String × String)) (v : Variable) (s : String) : Prop := (v.name, s) ∈ E ∧ s ≠ ""

/-- Whether a variable has a text that is not empty. -/
def isSet (E : List (String × String)) (v : Variable) : Bool :=
  E.any fun e => e.1 = v.name && e.2 ≠ ""

theorem isSet_iff : isSet E v = true ↔ ∃ s, Sets E v s := by
  simp only [isSet, Sets, List.any_eq_true, Bool.and_eq_true, decide_eq_true_eq]
  constructor
  · rintro ⟨⟨name, s⟩, hmem, rfl, hs⟩
    exact ⟨s, hmem, hs⟩
  · rintro ⟨s, hmem, hs⟩
    exact ⟨_, hmem, rfl, hs⟩

/-- Where no name occurs twice, a name has a text if and only if an entry pairs the two. -/
theorem lookup_eq_some_iff_mem {k : String} (hE : (E.map Prod.fst).Nodup) :
    E.lookup k = some s ↔ (k, s) ∈ E := by
  induction E with
  | nil => simp
  | cons e E ih =>
    obtain ⟨name, t⟩ := e
    obtain ⟨hfirst, hrest⟩ := List.nodup_cons.mp hE
    by_cases hk : k = name
    · -- the name stands at the head, and so nowhere else
      subst hk
      have hnot : (k, s) ∉ E := fun h => hfirst (List.mem_map.mpr ⟨_, h, rfl⟩)
      simp [hnot, eq_comm]
    · have hbeq : (k == name) = false := by simpa using hk
      rw [List.lookup_cons, hbeq]
      simp [ih hrest, hk]

theorem lookup_ofTexts (E : List (String × String)) (k : String) :
    (ofTexts E).entries.lookup k = (E.lookup k).map Raw.text := by
  show (E.map fun e => (e.1, Raw.text e.2)).lookup k = _
  induction E with
  | nil => rfl
  | cons e E ih =>
    rw [List.map_cons, List.lookup_cons, List.lookup_cons, ih]
    cases k == e.1 <;> rfl

theorem given?_ofTexts_eq_some_iff {raw : Raw} :
    (ofTexts E).given? v = some raw ↔ ∃ s, E.lookup v.name = some s ∧ s ≠ "" ∧ raw = .text s := by
  rw [given?, lookup_ofTexts]
  cases hlookup : E.lookup v.name with
  | none => simp
  | some t =>
    show (if t = "" then none else some (Raw.text t)) = some raw ↔ _
    by_cases ht : t = ""
    · simp [ht]
    · simp [ht, eq_comm]

/-- Where no name occurs twice, a value is given if and only if an entry sets it. -/
theorem given?_ofTexts_iff (hE : (E.map Prod.fst).Nodup) {raw : Raw} :
    (ofTexts E).given? v = some raw ↔ ∃ s, Sets E v s ∧ raw = .text s := by
  rw [given?_ofTexts_eq_some_iff]
  simp only [lookup_eq_some_iff_mem hE, Sets, and_assoc]

theorem given?_ofTexts_of_sets (hE : (E.map Prod.fst).Nodup) (h : Sets E v s) :
    (ofTexts E).given? v = some (.text s) :=
  (given?_ofTexts_iff hE).mpr ⟨s, h, rfl⟩

/-- Two lists of entries without repeated names that set the same give the same. -/
theorem given?_congr {E' : List (String × String)} (hE : (E.map Prod.fst).Nodup)
    (hE' : (E'.map Prod.fst).Nodup) (h : ∀ s, Sets E v s ↔ Sets E' v s) :
    (ofTexts E).given? v = (ofTexts E').given? v := by
  refine Option.ext fun raw => ?_
  rw [given?_ofTexts_iff hE, given?_ofTexts_iff hE']
  simp only [h]

/-! ## One entry -/

/-- A single entry sets its own variable. -/
theorem given?_single_self (h : s ≠ "") :
    (ofTexts [(v.name, s)]).given? v = some (.text s) :=
  given?_ofTexts_of_sets (by simp) ⟨List.mem_singleton.mpr rfl, h⟩

/-- A single entry sets no variable but its own. -/
theorem given?_single_of_ne {u : Variable} (h : u ≠ v) : (ofTexts [(v.name, s)]).given? u = none := by
  cases hgiven : (ofTexts [(v.name, s)]).given? u with
  | none => rfl
  | some raw =>
    obtain ⟨t, ⟨hmem, -⟩, -⟩ := (given?_ofTexts_iff (by simp)).mp hgiven
    have hname : u.name = v.name := congrArg Prod.fst (List.mem_singleton.mp hmem)
    exact absurd (Variable.name_injective hname) h

end Environment

end ObjectStorage

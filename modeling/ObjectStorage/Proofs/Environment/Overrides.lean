import ObjectStorage.Environment.Resolution
import ObjectStorage.Proofs.Environment.Part

/-!
# The overrides of an environment

* `override?`: the override of a variable, if its value is given and can be read.
* `readAll_eq_ok_iff`, `readAll_eq_error_iff`: reading some variables in order has the overrides of all
  of them, or the fault of the first that has one.
* `Override.apply`: the settings with one override put in place.
* `part_foldl_of_mem`, `part_foldl_of_not_mem`: with some overrides in place, the part of each variable.
* `overrides_congr`: the overrides depend on the given values alone.
-/

namespace ObjectStorage

/-- The settings with the value of an override put in place. -/
def Override.apply (s : Settings) (o : Override) : Settings := o.source.put s o.value

namespace Environment

variable {env : Environment}

/-! ## One variable -/

/-- The override of a variable, if its value is given and can be read. -/
def override? (env : Environment) (v : Variable) : Option Override :=
  match env.read? v with
  | .ok o => o
  | .error _ => none

theorem override?_of_read? {v : Variable} {o : Option Override} (h : env.read? v = .ok o) :
    env.override? v = o := by
  simp [override?, h]

/-- The override of a variable is one of that variable. -/
theorem source_of_override? {v : Variable} {o : Override} (h : env.override? v = some o) :
    o.source = v := by
  unfold override? read? at h
  cases hgiven : env.given? v with
  | none => simp [hgiven] at h
  | some raw =>
    cases hread : v.form.read raw with
    | error e => simp [hgiven, hread] at h
    | ok x =>
      simp only [hgiven, hread, Option.some.injEq] at h
      rw [← h]

theorem read?_eq_ok_none_iff {v : Variable} : env.read? v = .ok none ↔ env.given? v = none := by
  unfold read?
  cases hgiven : env.given? v with
  | none => simp
  | some raw => cases hread : v.form.read raw <;> simp [hread]

theorem read?_eq_ok_some_iff {v : Variable} {x : v.Value} :
    env.read? v = .ok (some ⟨v, x⟩) ↔ ∃ raw, env.given? v = some raw ∧ v.form.read raw = .ok x := by
  unfold read?
  cases hgiven : env.given? v with
  | none => simp
  | some raw => cases hread : v.form.read raw <;> simp [hread]

theorem read?_eq_error_iff {v : Variable} {e : InvalidConfiguration} :
    env.read? v = .error e ↔
      ∃ raw u, env.given? v = some raw ∧ v.form.read raw = .error u ∧ e = fault v u := by
  unfold read?
  cases hgiven : env.given? v with
  | none => simp
  | some raw => cases hread : v.form.read raw <;> simp [hread, eq_comm]

/-- A variable can be read if whatever is given for it has its form. -/
theorem exists_read?_eq_ok_iff {v : Variable} :
    (∃ o, env.read? v = .ok o) ↔ ∀ raw, env.given? v = some raw → ∃ x, v.form.read raw = .ok x := by
  unfold read?
  cases hgiven : env.given? v with
  | none => simp
  | some raw => cases hread : v.form.read raw <;> simp [hread]

/-! ## Several variables in order -/

theorem readAll_eq_ok_iff {vs : List Variable} {os : List Override} :
    env.readAll vs = .ok os ↔
      (∀ v ∈ vs, ∃ o, env.read? v = .ok o) ∧ os = vs.filterMap env.override? := by
  induction vs generalizing os with
  | nil => simp [readAll, eq_comm]
  | cons v vs ih =>
    cases hread : env.read? v with
    | error e => simp [readAll, hread]
    | ok o =>
      have hcons : (v :: vs).filterMap env.override? = o.toList ++ vs.filterMap env.override? := by
        cases o <;> simp [override?_of_read? hread]
      simp only [readAll, hread, hcons, List.forall_mem_cons]
      cases hrest : env.readAll vs with
      | error e =>
        have hnot : ¬ ∀ v ∈ vs, ∃ o, env.read? v = .ok o := fun h => by
          rw [ih.mpr ⟨h, rfl⟩] at hrest
          cases hrest
        simp [Except.map, hnot]
      | ok rest =>
        obtain ⟨hall, rfl⟩ := ih.mp hrest
        constructor
        · intro h
          exact ⟨⟨⟨o, rfl⟩, hall⟩, (Except.ok.inj h).symm⟩
        · rintro ⟨-, rfl⟩
          rfl

theorem readAll_eq_error_iff {vs : List Variable} {e : InvalidConfiguration} :
    env.readAll vs = .error e ↔
      ∃ before v after, vs = before ++ v :: after ∧ env.read? v = .error e ∧
        ∀ u ∈ before, ∃ o, env.read? u = .ok o := by
  induction vs with
  | nil => simp [readAll]
  | cons v vs ih =>
    cases hread : env.read? v with
    | error e' =>
      simp only [readAll, hread, Except.error.injEq]
      constructor
      · rintro rfl
        exact ⟨[], v, vs, rfl, hread, by simp⟩
      · rintro ⟨before, u, after, heq, hu, hbefore⟩
        cases before with
        | nil =>
          obtain ⟨rfl, -⟩ := List.cons.inj heq
          exact Except.error.inj (hread.symm.trans hu)
        | cons w before =>
          obtain ⟨rfl, -⟩ := List.cons.inj heq
          obtain ⟨o, ho⟩ := hbefore v (by simp)
          rw [hread] at ho
          cases ho
    | ok o =>
      have hmap : env.readAll (v :: vs) = .error e ↔ env.readAll vs = .error e := by
        simp only [readAll, hread]
        cases env.readAll vs <;> simp [Except.map]
      rw [hmap, ih]
      constructor
      · rintro ⟨before, u, after, rfl, hu, hbefore⟩
        refine ⟨v :: before, u, after, rfl, hu, fun w hw => ?_⟩
        rcases List.mem_cons.mp hw with rfl | hw
        · exact ⟨o, hread⟩
        · exact hbefore w hw
      · rintro ⟨before, u, after, heq, hu, hbefore⟩
        cases before with
        | nil =>
          obtain ⟨rfl, -⟩ := List.cons.inj heq
          rw [hread] at hu
          cases hu
        | cons w before =>
          obtain ⟨rfl, rfl⟩ := List.cons.inj heq
          exact ⟨before, u, after, rfl, hu, fun w hw => hbefore w (List.mem_cons_of_mem _ hw)⟩

/-! ## Overrides in place -/

theorem part_foldl_of_not_mem {os : List Override} {v : Variable} (h : ∀ o ∈ os, o.source ≠ v)
    (s : Settings) : v.part (os.foldl Override.apply s) = v.part s := by
  induction os generalizing s with
  | nil => rfl
  | cons o os ih =>
    have ho : v ≠ o.source := (h o List.mem_cons_self).symm
    rw [List.foldl_cons, ih (fun o' ho' => h o' (List.mem_cons_of_mem _ ho'))]
    exact Variable.part_put_of_ne s ho o.value

theorem part_foldl_of_mem {os : List Override} {v : Variable} {x : v.Value} (hmem : ⟨v, x⟩ ∈ os)
    (hnodup : (os.map Override.source).Nodup) (s : Settings) :
    v.part (os.foldl Override.apply s) = v.form.part x := by
  induction os generalizing s with
  | nil => cases hmem
  | cons o os ih =>
    obtain ⟨hfirst, hrest⟩ := List.nodup_cons.mp hnodup
    rw [List.foldl_cons]
    rcases List.mem_cons.mp hmem with rfl | hmem
    · -- no later override is of the same variable
      have hlater : ∀ o ∈ os, o.source ≠ v := fun o ho hv =>
        hfirst (List.mem_map.mpr ⟨o, ho, hv⟩)
      rw [part_foldl_of_not_mem hlater]
      exact Variable.part_put_self s v x
    · exact ih hmem hrest _

theorem writeChannel_foldl (os : List Override) (s : Settings) :
    (os.foldl Override.apply s).writeChannel = s.writeChannel := by
  induction os generalizing s with
  | nil => rfl
  | cons o os ih =>
    rw [List.foldl_cons, ih]
    exact Variable.writeChannel_put s o.source o.value

theorem nodup_sources (env : Environment) {vs : List Variable} (h : vs.Nodup) :
    ((vs.filterMap env.override?).map Override.source).Nodup := by
  rw [List.Nodup, List.pairwise_map, List.pairwise_filterMap]
  refine h.imp fun hne o ho o' ho' hsource => hne ?_
  rw [← source_of_override? ho, hsource, source_of_override? ho']

/-! ## Dependence on the given values -/

/-- The overrides depend on the given values alone. -/
theorem overrides_congr {env' : Environment} (h : ∀ v, env.given? v = env'.given? v) :
    env.overrides = env'.overrides := by
  have hread : ∀ v, env.read? v = env'.read? v := fun v => by rw [read?, read?, h v]
  have hall : ∀ vs, env.readAll vs = env'.readAll vs := by
    intro vs
    induction vs with
    | nil => rfl
    | cons v vs ih => rw [readAll, readAll, hread v, ih]
  exact hall Variable.all

end Environment

end ObjectStorage

import Mathlib.Data.List.Basic
import ObjectStorage.Proofs.Draft.Seeds
import ObjectStorage.Proofs.Environment.Overrides

/-!
# Drafts of environments

A draft of an environment is set variable by variable, and the variables for requester pays are taken
together in the end. What comes of it is the reopened draft of the environment's settings.

* `find?_filterMap_override?`: the value of a variable among the overrides of an environment.
* `Variable.set_of_mem_table`: what a row of the table sets is the part of its variable.
* `takeAll_reopen`: rows of the table on a reopened draft, with their records.
* `takeRequesterPays_reopen`: taking the variables for requester pays together is taking them in turn.
* `Environment.draft_of_readable`, `draft_of_fault`: the draft of an environment whose variables can all be read,
  or the fault. `draft_congr`: a draft depends on the given values alone.
* `settings_eq_ok_iff`: an environment has settings if every variable can be read; `part_settings`: what each
  variable's part of them is.
* `settings_of_fault`: there are none if a variable cannot be read, and the first such variable is named.
* `draft_eq_ok_iff`: the draft of an environment is the reopened draft of its settings.
-/

namespace ObjectStorage

/-! ## The table -/

namespace Variable

/-- The variables in their order: those of the table, and those for requester pays. -/
theorem all_eq : all = table.map Row.source ++ [payerMode, payerProject, payerBuckets] := rfl

/-- A row of the table sets its field to what is the part of its variable then. -/
theorem set_of_mem_table {row : Row} (h : row ∈ table) (s : Settings) (x : row.source.Value) :
    s.set row.target (row.value x) = row.source.put s x := by
  simp only [table, List.mem_cons, List.not_mem_nil, or_false] at h
  rcases h with rfl | rfl | rfl | rfl | rfl | rfl | rfl | rfl | rfl | rfl | rfl | rfl | rfl | rfl | rfl <;>
    rfl

theorem target_ne_requesterPays {row : Row} (h : row ∈ table) : row.target ≠ .requesterPays := by
  have htargets : Field.requesterPays ∉ table.map Row.target := by decide
  exact fun heq => htargets (heq ▸ List.mem_map_of_mem h)

/-- The field of a row is the one that its variable sets as a whole. -/
theorem field?_of_mem_table {row : Row} (h : row ∈ table) : row.source.field? = some row.target := by
  simp only [table, List.mem_cons, List.not_mem_nil, or_false] at h
  rcases h with rfl | rfl | rfl | rfl | rfl | rfl | rfl | rfl | rfl | rfl | rfl | rfl | rfl | rfl | rfl <;>
    rfl

end Variable

/-! ## The value of one variable -/

namespace Override

variable {os : List Override} {s : Settings}

theorem source_of_value? {v : Variable} {o : Override} {x : v.Value} (h : value? v o = some x) :
    o.source = v := by
  unfold value? at h
  split at h
  · assumption
  · cases h

/-- The value of a variable among the overrides of an environment is that of its own override. -/
theorem find?_filterMap_override? (env : Environment) (v : Variable) :
    find? v (Variable.all.filterMap env.override?) = (env.override? v).bind (value? v) := by
  cases hfound : find? v (Variable.all.filterMap env.override?) with
  | none =>
    have hnone := List.findSome?_eq_none_iff.mp hfound
    cases ho : env.override? v with
    | none => rfl
    | some o => exact (hnone o (List.mem_filterMap.mpr ⟨v, Variable.mem_all v, ho⟩)).symm
  | some x =>
    obtain ⟨o, hmem, hx⟩ := List.exists_of_findSome?_eq_some hfound
    obtain ⟨u, -, ho⟩ := List.mem_filterMap.mp hmem
    obtain rfl : u = v := (Environment.source_of_override? ho).symm.trans (source_of_value? hx)
    rw [ho]
    exact hx.symm

/-- The settings with the value that a variable has among some overrides, if it has one. -/
def putFound (os : List Override) (s : Settings) (v : Variable) : Settings :=
  match find? v os with
  | none => s
  | some x => v.put s x

/-- Putting the overrides of an environment in place is putting the value of each variable in place. -/
theorem foldl_apply_eq (env : Environment) (s : Settings) :
    (Variable.all.filterMap env.override?).foldl apply s =
      Variable.all.foldl (putFound (Variable.all.filterMap env.override?)) s := by
  rw [List.foldl_filterMap]
  congr 1
  funext s v
  rw [putFound, find?_filterMap_override?]
  cases ho : env.override? v with
  | none => rfl
  | some o =>
    obtain rfl := Environment.source_of_override? ho
    simp [value?, apply]

end Override

/-! ## The loop over the table -/

namespace Draft

variable {os : List Override} {rows : List Variable.Row}

/-- Rows of the table on a reopened draft put the values of their variables in place, each with a record. -/
theorem takeAll_reopen (hrows : ∀ row ∈ rows, row ∈ Variable.table) (s : Settings) :
    (reopen s).takeAll os rows =
      ⟨.ok (reopen ((rows.map Variable.Row.source).foldl (Override.putFound os) s)),
        rows.filterMap fun row => (Override.find? row.source os).map fun _ => .taken row.target row.source,
        []⟩ := by
  induction rows generalizing s with
  | nil => rfl
  | cons row rows ih =>
    obtain ⟨hrow, hrest⟩ := List.forall_mem_cons.mp hrows
    have hput : (reopen s).take os row = ⟨.ok (reopen (Override.putFound os s row.source)),
        ((Override.find? row.source os).map fun _ => Record.taken row.target row.source).toList, []⟩ := by
      rw [take, Override.putFound]
      cases Override.find? row.source os with
      | none => rfl
      | some x =>
        dsimp only
        rw [assign_reopen, Variable.set_of_mem_table hrow]
        rfl
    rw [takeAll, hput, Outcome.andThen]
    dsimp only
    rw [ih hrest]
    cases hx : Override.find? row.source os <;> simp [hx]

/-- The variables for requester pays are taken together as they would be in turn. -/
theorem takeRequesterPays_reopen {s : Settings} (hs : s.requesterPays = .default) :
    (reopen s).takeRequesterPays os =
      reopen ([Variable.payerMode, .payerProject, .payerBuckets].foldl (Override.putFound os) s) := by
  obtain ⟨⟩ := s
  subst hs
  simp only [takeRequesterPays, Override.requesterPays?, List.foldl_cons, List.foldl_nil,
    Override.putFound, assign_reopen]
  cases Override.find? .payerMode os <;> cases Override.find? .payerProject os <;>
    cases Override.find? .payerBuckets os <;> rfl

end Draft

/-- Rows of the table leave the requester-pays value as it is. -/
theorem Override.requesterPays_foldl_putFound {os : List Override} {rows : List Variable.Row}
    (hrows : ∀ row ∈ rows, row ∈ Variable.table) (s : Settings) :
    ((rows.map Variable.Row.source).foldl (putFound os) s).requesterPays = s.requesterPays := by
  induction rows generalizing s with
  | nil => rfl
  | cons row rows ih =>
    obtain ⟨hrow, hrest⟩ := List.forall_mem_cons.mp hrows
    rw [List.map_cons, List.foldl_cons, ih hrest, putFound]
    cases find? row.source os with
    | none => rfl
    | some x =>
      dsimp only
      rw [← Variable.set_of_mem_table hrow]
      exact Settings.get_set_of_ne s (Variable.target_ne_requesterPays hrow).symm _

/-! ## Drafts of environments -/

namespace Environment

variable {env env' : Environment}

/-- The record of a field that takes its value from a variable as a whole. -/
def taken? (env : Environment) (v : Variable) : Option Record :=
  if (env.given? v).isSome then v.field?.map (.taken · v) else none

/-- Where all variables can be read, those that are given have a value among the overrides. -/
theorem find?_isSome (hread : ∀ v, ∃ o, env.read? v = .ok o) (v : Variable) :
    (Override.find? v (Variable.all.filterMap env.override?)).isSome = (env.given? v).isSome := by
  obtain ⟨o, ho⟩ := hread v
  rw [Override.find?_filterMap_override?, override?_of_read? ho]
  cases o with
  | none => simp [read?_eq_ok_none_iff.mp ho]
  | some o =>
    obtain rfl := source_of_override? (override?_of_read? ho)
    obtain ⟨raw, hgiven, -⟩ := read?_eq_ok_some_iff.mp ho
    simp [hgiven, Override.value?]

/-- The records of the rows of the table are those of the variables that are given. -/
theorem records_of_table (hread : ∀ v, ∃ o, env.read? v = .ok o) :
    (Variable.table.filterMap fun row =>
      (Override.find? row.source (Variable.all.filterMap env.override?)).map fun _ =>
        Record.taken row.target row.source) = Variable.all.filterMap env.taken? := by
  have hpayers : [Variable.payerMode, .payerProject, .payerBuckets].filterMap env.taken? = [] := by
    simp [taken?, Variable.field?, Variable.table]
  have hrows : ∀ row ∈ Variable.table,
      ((Override.find? row.source (Variable.all.filterMap env.override?)).map fun _ =>
        Record.taken row.target row.source) = env.taken? row.source := by
    intro row hrow
    rw [taken?, ← find?_isSome hread, Variable.field?_of_mem_table hrow]
    cases Override.find? row.source (Variable.all.filterMap env.override?) <;> rfl
  have hall : Variable.all.filterMap env.taken? =
      Variable.table.filterMap (env.taken? ∘ Variable.Row.source) := by
    rw [Variable.all_eq, List.filterMap_append, hpayers, List.append_nil, List.filterMap_map]
  rw [hall]
  exact List.filterMap_congr hrows

/-- The draft of an environment whose variables can all be read: it is the reopened draft of the defaults with
every override in place, with one record for each variable that is given and sets a field as a whole. -/
theorem draft_of_readable (hread : ∀ v, ∃ o, env.read? v = .ok o) :
    env.draft = ⟨.ok (.reopen ((Variable.all.filterMap env.override?).foldl Override.apply .default)),
      Variable.all.filterMap env.taken?, []⟩ := by
  have hover : env.overrides = .ok (Variable.all.filterMap env.override?) :=
    readAll_eq_ok_iff.mpr ⟨fun v _ => hread v, rfl⟩
  rw [draft, hover]
  dsimp only
  rw [Draft.fresh_eq_reopen, Draft.takeAll_reopen fun _ hrow => hrow, records_of_table hread,
    Outcome.map, Except.map]
  dsimp only
  rw [Draft.takeRequesterPays_reopen (Override.requesterPays_foldl_putFound (fun _ hrow => hrow) _),
    ← List.foldl_append, ← Variable.all_eq, ← Override.foldl_apply_eq]

theorem draft_of_fault {i : InvalidConfiguration} (h : env.overrides = .error i) :
    env.draft = .fail (.configuration i) := by
  rw [draft, h]

theorem readable_of_overrides {os : List Override} (h : env.overrides = .ok os) (v : Variable) :
    ∃ o, env.read? v = .ok o :=
  (readAll_eq_ok_iff.mp h).1 v (Variable.mem_all v)

/-- A draft depends on the given values alone. -/
theorem draft_congr (h : ∀ v, env.given? v = env'.given? v) : env.draft = env'.draft := by
  rw [draft, draft, overrides_congr h]

/-! ## Settings of environments -/

/-- An environment has settings if every variable can be read; they are the defaults with every override
in place. -/
theorem settings_eq_ok_iff {s : Settings} : env.settings = .ok s ↔
    (∀ v, ∃ o, env.read? v = .ok o) ∧
      s = (Variable.all.filterMap env.override?).foldl Override.apply .default := by
  cases hover : env.overrides with
  | error i =>
    have hnot : ¬ ∀ v, ∃ o, env.read? v = .ok o := fun h => by
      rw [overrides, readAll_eq_ok_iff.mpr ⟨fun v _ => h v, rfl⟩] at hover
      cases hover
    have hsettings : env.settings = .error (.configuration i) := by
      rw [settings, draft_of_fault hover]
      rfl
    simp [hsettings, hnot]
  | ok os =>
    have hread := readable_of_overrides hover
    have hsettings : env.settings =
        .ok ((Variable.all.filterMap env.override?).foldl Override.apply .default) := by
      rw [settings, draft_of_readable hread]
      exact congrArg Outcome.result (Draft.build_reopen _ fun _ => .default)
    constructor
    · intro h
      exact ⟨hread, (Except.ok.inj (hsettings.symm.trans h)).symm⟩
    · rintro ⟨-, rfl⟩
      exact hsettings

/-- An environment without settings has a variable that cannot be read. -/
theorem settings_eq_error_iff {e : Fault} :
    env.settings = .error e ↔ ∃ i, env.overrides = .error i ∧ e = .configuration i := by
  cases hover : env.overrides with
  | error i =>
    rw [settings, draft_of_fault hover]
    simp [Outcome.fail, bind, Except.bind, eq_comm]
  | ok os =>
    rw [settings_eq_ok_iff.mpr ⟨readable_of_overrides hover, rfl⟩]
    simp

/-- If all variables but one can be read, there are settings if that one can be read as well. -/
theorem exists_settings {v : Variable} (hothers : ∀ u, u ≠ v → ∃ o, env.read? u = .ok o)
    (hv : ∃ o, env.read? v = .ok o) : ∃ s, env.settings = .ok s := by
  refine ⟨_, settings_eq_ok_iff.mpr ⟨fun u => ?_, rfl⟩⟩
  by_cases hu : u = v
  · rw [hu]
    exact hv
  · exact hothers u hu

/-- Each variable's part of the settings is the default if the variable is not given, and otherwise the
value that it is read as. -/
theorem part_settings {s : Settings} (h : env.settings = .ok s) (v : Variable) :
    (env.given? v = none ∧ v.part s = v.part .default) ∨
      ∃ raw x, env.given? v = some raw ∧ v.form.read raw = .ok x ∧ v.part s = v.form.part x := by
  obtain ⟨hread, rfl⟩ := settings_eq_ok_iff.mp h
  obtain ⟨o, ho⟩ := hread v
  have hover := override?_of_read? ho
  cases o with
  | none =>
    refine Or.inl ⟨read?_eq_ok_none_iff.mp ho, part_foldl_of_not_mem (fun o hmem => ?_) _⟩
    rintro rfl
    obtain ⟨w, -, hw⟩ := List.mem_filterMap.mp hmem
    rw [source_of_override? hw, hw] at hover
    cases hover
  | some o =>
    obtain rfl := source_of_override? hover
    obtain ⟨raw, hgiven, hraw⟩ := read?_eq_ok_some_iff.mp ho
    refine Or.inr ⟨raw, o.value, hgiven, hraw, part_foldl_of_mem ?_ ?_ _⟩
    · exact List.mem_filterMap.mpr ⟨o.source, Variable.mem_all _, hover⟩
    · exact nodup_sources env Variable.nodup_all

theorem part_of_not_given {s : Settings} (h : env.settings = .ok s) {v : Variable}
    (hgiven : env.given? v = none) : v.part s = v.part .default := by
  rcases part_settings h v with ⟨-, hpart⟩ | ⟨raw, x, hraw, -⟩
  · exact hpart
  · rw [hgiven] at hraw
    cases hraw

theorem part_of_given {s : Settings} (h : env.settings = .ok s) {v : Variable} {raw : Raw} {x : v.Value}
    (hgiven : env.given? v = some raw) (hread : v.form.read raw = .ok x) :
    v.part s = v.form.part x := by
  rcases part_settings h v with ⟨hnone, -⟩ | ⟨raw', x', hraw, hread', hpart⟩
  · rw [hgiven] at hnone
    cases hnone
  · obtain rfl := Option.some.inj (hgiven.symm.trans hraw)
    obtain rfl := Except.ok.inj (hread.symm.trans hread')
    exact hpart

/-- No variable is for the write channel. -/
theorem writeChannel_settings {s : Settings} (h : env.settings = .ok s) :
    s.writeChannel = .default := by
  obtain ⟨-, rfl⟩ := settings_eq_ok_iff.mp h
  exact writeChannel_foldl _ _

/-- If no variable in front of one that cannot be read fails, the fault is of that one. -/
theorem settings_of_fault {v : Variable} {i : InvalidConfiguration} (hv : env.read? v = .error i)
    (hbefore : ∀ u, [u, v].Sublist Variable.all → ∃ o, env.read? u = .ok o) :
    env.settings = .error (.configuration i) := by
  obtain ⟨before, after, hall⟩ := List.append_of_mem (Variable.mem_all v)
  refine settings_eq_error_iff.mpr
    ⟨i, readAll_eq_error_iff.mpr ⟨before, v, after, hall, hv, fun u hu => ?_⟩, rfl⟩
  have hpair : ([u] ++ [v]).Sublist (before ++ v :: after) :=
    (List.singleton_sublist.mpr hu).append (List.singleton_sublist.mpr List.mem_cons_self)
  exact hbefore u (hall ▸ hpair)

/-! ## Drafts and settings -/

/-- The draft of an environment that has settings is the reopened draft of these. -/
theorem draft_of_settings {s : Settings} (h : env.settings = .ok s) :
    env.draft.result = .ok (.reopen s) := by
  obtain ⟨hread, rfl⟩ := settings_eq_ok_iff.mp h
  rw [draft_of_readable hread]

theorem draft_of_error {e : Fault} (h : env.settings = .error e) : env.draft = .fail e := by
  obtain ⟨i, hi, rfl⟩ := settings_eq_error_iff.mp h
  exact draft_of_fault hi

theorem draft_eq_ok_iff {d : Draft} :
    env.draft.result = .ok d ↔ ∃ s, env.settings = .ok s ∧ d = .reopen s := by
  cases hs : env.settings with
  | error e => simp [draft_of_error hs, Outcome.fail]
  | ok s => simp [draft_of_settings hs, eq_comm]

theorem draft_eq_error_iff {e : Fault} :
    env.draft.result = .error e ↔ ∃ i, env.overrides = .error i ∧ e = .configuration i := by
  rw [← settings_eq_error_iff]
  cases hs : env.settings with
  | error e' => simp [draft_of_error hs, Outcome.fail]
  | ok s => simp [draft_of_settings hs]

/-- The records of a draft are those of the given variables that set a field as a whole, in their order. -/
theorem log_of_draft {d : Draft} (h : env.draft.result = .ok d) :
    env.draft.log = Variable.all.filterMap env.taken? := by
  obtain ⟨s, hs, -⟩ := draft_eq_ok_iff.mp h
  rw [draft_of_readable (settings_eq_ok_iff.mp hs).1]

/-- Without a draft there is no record. -/
theorem log_of_error {e : Fault} (h : env.draft.result = .error e) : env.draft.log = [] := by
  obtain ⟨i, hi, -⟩ := draft_eq_error_iff.mp h
  rw [draft_of_fault hi]
  rfl

end Environment

end ObjectStorage

import ObjectStorage.Proofs.Environment.Drafts
import ObjectStorage.Proofs.Environment.Texts

/-!
# Entries count one by one

Each variable is read on its own, so that an environment fares as its entries do alone.

* `read?_single_self`: a variable is read alone as it is among other entries.
* `overrides_single_eq_error_iff`, `draft_single_iff`: how an environment of a single entry fares.
* `draft_ofTexts`: the order of the entries and those that set nothing do not count; there is a draft
  if there is one of each entry alone, and else the first fault; and the records that are left.
-/

namespace ObjectStorage.Environment

variable {E : List (String × String)} {v : Variable} {s : String}

/-! ## One entry -/

/-- A variable is read alone as it is among other entries. -/
theorem read?_single_self (hE : (E.map Prod.fst).Nodup) (h : Sets E v s) :
    (ofTexts [(v.name, s)]).read? v = (ofTexts E).read? v := by
  rw [read?, read?, given?_ofTexts_of_sets hE h, given?_single_self h.2]

theorem read?_single_of_ne {u : Variable} (h : u ≠ v) :
    (ofTexts [(v.name, s)]).read? u = .ok none :=
  read?_eq_ok_none_iff.mpr (given?_single_of_ne h)

/-- An environment of a single entry has no fault but that of the entry. -/
theorem overrides_single_eq_error_iff {e : InvalidConfiguration} :
    (ofTexts [(v.name, s)]).overrides = .error e ↔ (ofTexts [(v.name, s)]).read? v = .error e := by
  have hown : ∀ {e}, (ofTexts [(v.name, s)]).overrides = .error e →
      (ofTexts [(v.name, s)]).read? v = .error e := by
    intro e h
    obtain ⟨before, u, after, -, hu, -⟩ := readAll_eq_error_iff.mp h
    by_cases huv : u = v
    · exact huv ▸ hu
    · rw [read?_single_of_ne huv] at hu
      cases hu
  refine ⟨hown, fun h => ?_⟩
  cases hover : (ofTexts [(v.name, s)]).overrides with
  | error e' =>
    obtain rfl := Except.error.inj (h.symm.trans (hown hover))
    rfl
  | ok os =>
    obtain ⟨o, ho⟩ := (readAll_eq_ok_iff.mp hover).1 v (Variable.mem_all v)
    rw [h] at ho
    cases ho

theorem draft_single_iff :
    (∃ d, (ofTexts [(v.name, s)]).draft.result = .ok d) ↔
      ∃ o, (ofTexts [(v.name, s)]).read? v = .ok o := by
  constructor
  · rintro ⟨d, hd⟩
    obtain ⟨t, ht, -⟩ := draft_eq_ok_iff.mp hd
    exact (settings_eq_ok_iff.mp ht).1 v
  · intro hread
    obtain ⟨t, ht⟩ := exists_settings (fun u hu => ⟨none, read?_single_of_ne hu⟩) hread
    exact ⟨_, draft_of_settings ht⟩

/-! ## All entries -/

/-- A variable can be read among other entries if it can be read alone. -/
theorem read?_ok_iff (hE : (E.map Prod.fst).Nodup) :
    (∃ o, (ofTexts E).read? v = .ok o) ↔
      ∀ s, Sets E v s → ∃ d, (ofTexts [(v.name, s)]).draft.result = .ok d := by
  constructor
  · intro h s hs
    rw [draft_single_iff, read?_single_self hE hs]
    exact h
  · intro h
    rw [exists_read?_eq_ok_iff]
    intro raw hgiven
    obtain ⟨s, hs, -⟩ := (given?_ofTexts_iff hE).mp hgiven
    have halone := draft_single_iff.mp (h s hs)
    rw [read?_single_self hE hs, exists_read?_eq_ok_iff] at halone
    exact halone raw hgiven

/-- Entries under other names, and empty ones, set nothing. -/
theorem given?_of_perm_append {E' noise : List (String × String)} (hperm : E'.Perm (E ++ noise))
    (hE' : (E'.map Prod.fst).Nodup) (hnoise : ∀ e ∈ noise, (∀ v : Variable, e.1 ≠ v.name) ∨ e.2 = "")
    (v : Variable) : (ofTexts E').given? v = (ofTexts E).given? v := by
  have happend : ((E ++ noise).map Prod.fst).Nodup := (hperm.map Prod.fst).nodup hE'
  have hE : (E.map Prod.fst).Nodup := by
    rw [List.map_append] at happend
    exact (List.nodup_append.mp happend).1
  refine given?_congr hE' hE fun s => ?_
  simp only [Sets, hperm.mem_iff, List.mem_append]
  constructor
  · rintro ⟨hmem | hmem, hs⟩
    · exact ⟨hmem, hs⟩
    · rcases hnoise _ hmem with hname | hempty
      · exact absurd rfl (hname v)
      · exact absurd hempty hs
  · rintro ⟨hmem, hs⟩
    exact ⟨.inl hmem, hs⟩

/-- The records of the variables that some entries set: one for each that sets a field as a whole. -/
def records (E : List (String × String)) : List Record :=
  (Variable.all.filter (isSet E)).filterMap fun v => v.field?.map (.taken · v)

theorem log_ofTexts (hE : (E.map Prod.fst).Nodup) {d : Draft} (h : (ofTexts E).draft.result = .ok d) :
    (ofTexts E).draft.log = records E := by
  rw [log_of_draft h, records, List.filterMap_filter]
  congr 1
  funext v
  have hgiven : ((ofTexts E).given? v).isSome = isSet E v := by
    rw [Bool.eq_iff_iff, isSet_iff, Option.isSome_iff_exists]
    simp only [given?_ofTexts_iff hE]
    exact ⟨fun ⟨_, s, hs, _⟩ => ⟨s, hs⟩, fun ⟨s, hs⟩ => ⟨_, s, hs, rfl⟩⟩
  rw [taken?, hgiven]

/-- **Entries count one by one.** Among entries of which no two have the same name:
the order does not count, nor do further entries under names of no variable or with the empty text;
there is a draft if and only if there is one of every entry alone that sets a variable;
else the fault is that of the first such variable, in the order of all of them, and no record is left;
and if there is a draft, there is one record for each variable that is set and that is for a whole
field, in that order. -/
theorem draft_ofTexts (E : List (String × String)) (hE : (E.map Prod.fst).Nodup) :
    (∀ noise E', E'.Perm (E ++ noise) → (E'.map Prod.fst).Nodup →
      (∀ e ∈ noise, (∀ v : Variable, e.1 ≠ v.name) ∨ e.2 = "") →
      (ofTexts E').draft = (ofTexts E).draft) ∧
    ((∃ d, (ofTexts E).draft.result = .ok d) ↔
      ∀ v s, Sets E v s → ∃ d, (ofTexts [(v.name, s)]).draft.result = .ok d) ∧
    (∀ e, (ofTexts E).draft.result = .error e → (ofTexts E).draft.log = [] ∧
      ∃ before v after s, Variable.all = before ++ v :: after ∧ Sets E v s ∧
        (ofTexts [(v.name, s)]).draft.result = .error e ∧
        ∀ u ∈ before, ∀ t, Sets E u t → ∃ d, (ofTexts [(u.name, t)]).draft.result = .ok d) ∧
    ∀ d, (ofTexts E).draft.result = .ok d → (ofTexts E).draft.log = records E := by
  refine ⟨fun noise E' hperm hE' hnoise => ?_, ?_, fun e he => ?_, fun d hd => log_ofTexts hE hd⟩
  · exact draft_congr (given?_of_perm_append hperm hE' hnoise)
  · constructor
    · rintro ⟨d, hd⟩ v
      obtain ⟨t, ht, -⟩ := draft_eq_ok_iff.mp hd
      exact (read?_ok_iff hE).mp ((settings_eq_ok_iff.mp ht).1 v)
    · intro h
      exact ⟨_, draft_eq_ok_iff.mpr
        ⟨_, settings_eq_ok_iff.mpr ⟨fun v => (read?_ok_iff hE).mpr (h v), rfl⟩, rfl⟩⟩
  · obtain ⟨i, hi, rfl⟩ := draft_eq_error_iff.mp he
    obtain ⟨before, v, after, hall, hv, hbefore⟩ := readAll_eq_error_iff.mp hi
    obtain ⟨raw, -, hgiven, -, -⟩ := read?_eq_error_iff.mp hv
    obtain ⟨s, hs, -⟩ := (given?_ofTexts_iff hE).mp hgiven
    rw [← read?_single_self hE hs] at hv
    exact ⟨log_of_error he, before, v, after, s, hall, hs,
      draft_eq_error_iff.mpr ⟨i, overrides_single_eq_error_iff.mpr hv, rfl⟩,
      fun u hu => (read?_ok_iff hE).mp (hbefore u hu)⟩

/-- Two values that cannot be read; the variable of the second comes before that of the first. -/
def faultyEntries : List (String × String) :=
  [("CLOUDSTORE_TRANSPORT_TYPE", "smoke"), ("CLOUDSTORE_BATCH_THREADS", "many")]

/-- Two values that can be read: one for a field, one for a part of the requester-pays value. -/
def readableEntries : List (String × String) :=
  [("CLOUDSTORE_REQUESTER_PAYS_MODE", "auto"), ("CLOUDSTORE_BATCH_THREADS", "7")]

/-- The settings of these entries. -/
def readableSettings : Settings :=
  { Settings.default with
    batchThreads := 7
    requesterPays := { RequesterPays.default with mode := .auto } }

theorem draft_faultyEntries :
    (faultyEntries.map Prod.fst).Nodup ∧
      (ofTexts [("PATH", "/bin"), ("CLOUDSTORE_BATCH_THREADS", "many"), ("CLOUDSTORE_APP_NAME", ""),
        ("CLOUDSTORE_TRANSPORT_TYPE", "smoke")]).draft = (ofTexts faultyEntries).draft ∧
      (ofTexts faultyEntries).draft.log = [] ∧
      (ofTexts faultyEntries).draft.result =
        .error (.configuration (fault .batchThreads .numeral)) ∧
      (ofTexts [(Variable.batchThreads.name, "many")]).draft.result =
        .error (.configuration (fault .batchThreads .numeral)) ∧
      (readableEntries.map Prod.fst).Nodup ∧
      (ofTexts readableEntries).draft.result = .ok (.reopen readableSettings) ∧
      (ofTexts readableEntries).draft.log = [.taken .batchThreads .batchThreads] ∧
      (∃ d, (ofTexts [(Variable.payerMode.name, "auto")]).draft.result = .ok d) ∧
      ∃ d, (ofTexts [(Variable.batchThreads.name, "7")]).draft.result = .ok d := by
  have hnames : (faultyEntries.map Prod.fst).Nodup := by decide
  obtain ⟨hnoise, -, hfault, -⟩ := draft_ofTexts faultyEntries hnames
  have hnames' : (readableEntries.map Prod.fst).Nodup := by decide
  obtain ⟨-, halone, -, hlog⟩ := draft_ofTexts readableEntries hnames'
  have hdraft : (ofTexts readableEntries).draft.result = .ok (.reopen readableSettings) :=
    draft_of_settings rfl
  refine ⟨hnames, hnoise [("PATH", "/bin"), ("CLOUDSTORE_APP_NAME", "")] _ (by decide) (by decide) ?_,
    (hfault _ rfl).1, rfl, rfl, hnames', hdraft, hlog _ hdraft,
    halone.mp ⟨_, hdraft⟩ .payerMode "auto" ⟨by decide, by decide⟩,
    halone.mp ⟨_, hdraft⟩ .batchThreads "7" ⟨by decide, by decide⟩⟩
  intro e he
  rcases List.mem_cons.mp he with rfl | he
  · exact .inl fun v => by cases v <;> decide
  · obtain rfl := List.mem_singleton.mp he
    exact .inr rfl

end ObjectStorage.Environment

import ObjectStorage.Proofs.Draft.Setting

/-!
# What a draft still misses

* `Draft.missing`: the fields without a value, in declaration order. The write channel is none of them once
  the draft takes it from a write-channel draft.
* `Draft.build_of_missing_ne_nil`, `exists_build_of_missing_eq_nil`: a build fails with these fields, or
  succeeds if there is none.
* `Draft.mem_missing_setAll_iff`: setters that succeed take their fields off the list, and no other.
-/

namespace ObjectStorage

namespace PartialSettings

variable {p : PartialSettings}

theorem complete_of_missing_ne_nil (h : p.missing ≠ []) : p.complete = .error p.missing := dif_neg h

theorem exists_complete_of_missing_eq_nil (h : p.missing = []) : ∃ s, p.complete = .ok s :=
  ⟨_, dif_pos h⟩

end PartialSettings

namespace Draft

variable {d : Draft} {content : ChannelId → WriteChannel} {f : Field}

/-- The fields for which a build finds no value, in declaration order. -/
def missing (d : Draft) : List Field :=
  Field.all.filter fun f => (d.fields.get? f).isNone && (f ≠ .writeChannel || d.source = .direct)

theorem missing_sublist (d : Draft) : d.missing.Sublist Field.all := List.filter_sublist

theorem mem_missing_iff :
    f ∈ d.missing ↔ d.fields.get? f = none ∧ (f = .writeChannel → d.source = .direct) := by
  rw [missing, List.mem_filter, Bool.and_eq_true, Bool.or_eq_true, Option.isNone_iff_eq_none,
    decide_eq_true_eq, decide_eq_true_eq, ← Decidable.imp_iff_not_or]
  exact and_iff_right (Field.mem_all f)

/-! ## Building -/

/-- The settled fields miss what the draft misses. -/
theorem missing_of_settled {fields : PartialSettings} (h : d.settled content = .ok fields) :
    fields.missing = d.missing := by
  refine List.filter_congr fun f _ => ?_
  cases hsource : d.source with
  | direct =>
    simp only [settled, hsource, Except.ok.injEq] at h
    simp [← h]
  | drafted =>
    cases hheld : d.held? with
    | none => simp [settled, hsource, hheld] at h
    | some c =>
      simp only [settled, hsource, hheld, Except.ok.injEq] at h
      subst h
      by_cases hf : f = .writeChannel
      · subst hf
        simp
      · simp [hf, PartialSettings.get?_assign_of_ne _ (Ne.symm hf)]

/-- A draft can be settled unless it is to take its write channel from a write-channel draft and holds none. -/
theorem exists_settled (h : ¬ (d.source = .drafted ∧ d.held? = none))
    (content : ChannelId → WriteChannel) : ∃ fields, d.settled content = .ok fields := by
  unfold settled
  split
  · exact ⟨_, rfl⟩
  · next hsource hheld => exact absurd ⟨hsource, hheld⟩ h
  · exact ⟨_, rfl⟩

/-- A build fails with the fields that the draft misses. -/
theorem build_of_missing_ne_nil (h : ¬ (d.source = .drafted ∧ d.held? = none)) (hmissing : d.missing ≠ []) :
    (d.build content).result = .error (.missingFields d.missing) := by
  obtain ⟨fields, hfields⟩ := exists_settled h content
  rw [← missing_of_settled hfields] at hmissing ⊢
  rw [build, hfields]
  show fields.complete.mapError Fault.missingFields = _
  rw [PartialSettings.complete_of_missing_ne_nil hmissing]
  rfl

/-- A draft that misses nothing is built. -/
theorem exists_build_of_missing_eq_nil (h : ¬ (d.source = .drafted ∧ d.held? = none)) (hmissing : d.missing = [])
    (content : ChannelId → WriteChannel) : ∃ s, (d.build content).result = .ok s := by
  obtain ⟨fields, hfields⟩ := exists_settled h content
  rw [← missing_of_settled hfields] at hmissing
  obtain ⟨s, hs⟩ := PartialSettings.exists_complete_of_missing_eq_nil hmissing
  exact ⟨s, build_eq_ok_iff.mpr ⟨fields, hfields, hs⟩⟩

/-- A draft is built exactly if it misses nothing. -/
theorem exists_build_iff (h : ¬ (d.source = .drafted ∧ d.held? = none)) (content : ChannelId → WriteChannel) :
    (∃ s, (d.build content).result = .ok s) ↔ d.missing = [] := by
  refine ⟨fun ⟨s, hs⟩ => ?_, fun hmissing => exists_build_of_missing_eq_nil h hmissing content⟩
  by_cases hmissing : d.missing = []
  · exact hmissing
  · rw [build_of_missing_ne_nil h hmissing] at hs
    cases hs

/-- A draft is built exactly if its source can be settled and all fields have values, but the write channel
only while it is set directly. -/
theorem exists_build_iff_forall (content : ChannelId → WriteChannel) :
    (∃ s, (d.build content).result = .ok s) ↔ ¬ (d.source = .drafted ∧ d.held? = none) ∧
      ∀ f, (f = .writeChannel → d.source = .direct) → (d.fields.get? f).isSome := by
  by_cases h : d.source = .drafted ∧ d.held? = none
  · refine iff_of_false ?_ fun hand => hand.1 h
    rintro ⟨s, hs⟩
    rw [build_of_nothingInstalled h.1 h.2] at hs
    cases hs
  · rw [exists_build_iff h, List.eq_nil_iff_forall_not_mem]
    simp only [mem_missing_iff, h, not_false_eq_true, true_and]
    refine forall_congr' fun f => ?_
    cases d.fields.get? f <;> simp

/-! ## Setting -/

section Setting

variable {value? : String → Option Value} {xs : List Setting}

/-- Setters leave the source as it is, and what is held. -/
theorem source_setAll (xs : List Setting) :
    (d.setAll value? xs).source = d.source ∧ (d.setAll value? xs).held? = d.held? := by
  induction xs generalizing d with
  | nil => exact ⟨rfl, rfl⟩
  | cons x xs ih =>
    rw [setAll, List.foldl_cons, applySetting]
    cases x.given.read value? x.setter.target.kind with
    | error e => exact ih
    | ok v => exact ih

/-- After setters that succeed, a field has no value if it had none and none of them is for it. -/
theorem get?_setAll_eq_none_iff
    (hxs : ∀ x ∈ xs, ∃ v, x.given.read value? x.setter.target.kind = .ok v) :
    (d.setAll value? xs).fields.get? f = none ↔
      d.fields.get? f = none ∧ ∀ x ∈ xs, x.setter.target ≠ f := by
  induction xs generalizing d with
  | nil => simp [setAll]
  | cons x xs ih =>
    obtain ⟨⟨v, hv⟩, hrest⟩ := List.forall_mem_cons.mp hxs
    have hnext : d.setAll value? (x :: xs) = (d.assign x.setter.target v).setAll value? xs := by
      rw [setAll, List.foldl_cons, applySetting, hv]
      rfl
    rw [hnext, ih hrest, List.forall_mem_cons, ← and_assoc]
    refine and_congr_left fun _ => ?_
    by_cases hf : x.setter.target = f
    · subst hf
      simp [assign]
    · simp [assign, PartialSettings.get?_assign_of_ne _ hf, hf]

/-- Setters that succeed take their fields off the list of missing ones, and no other. -/
theorem mem_missing_setAll_iff
    (hxs : ∀ x ∈ xs, ∃ v, x.given.read value? x.setter.target.kind = .ok v) :
    f ∈ (d.setAll value? xs).missing ↔ f ∈ d.missing ∧ ∀ x ∈ xs, x.setter.target ≠ f := by
  rw [mem_missing_iff, mem_missing_iff, get?_setAll_eq_none_iff hxs, (source_setAll xs).1,
    and_right_comm]

end Setting

end Draft

end ObjectStorage

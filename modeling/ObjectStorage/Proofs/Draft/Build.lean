import ObjectStorage.Draft

/-!
# What a build takes its fields from

* `build_eq_ok_iff`: a build succeeds with the completed fields, the write channel settled.
* `get?_of_build`: every field but the write channel is the one of the draft.
* `writeChannel_of_direct`, `writeChannel_of_held`: the write channel is that of the draft, or what the
  held write-channel draft contains.
* `build_assign_writeChannel`: with a write-channel draft held, what is set directly does not count.
-/

namespace ObjectStorage

/-- Another account of a failure leaves what succeeds as it is. -/
theorem mapError_eq_ok_iff {ε ε' α : Type} {x : Except ε α} {f : ε → ε'} {a : α} :
    x.mapError f = .ok a ↔ x = .ok a := by
  cases x with
  | error e => exact ⟨(fun h => nomatch h), (fun h => nomatch h)⟩
  | ok b =>
    show (Except.ok b : Except ε' α) = .ok a ↔ (Except.ok b : Except ε α) = .ok a
    simp

theorem PartialSettings.assign_assign (p : PartialSettings) (f : Field) (v w : f.Value) :
    (p.assign f v).assign f w = p.assign f w := by
  unfold assign
  congr 1
  funext g
  by_cases h : f = g <;> simp [h]

namespace Draft

variable {d : Draft} {content : ChannelId → WriteChannel} {s : Settings}

theorem build_eq_ok_iff : (d.build content).result = .ok s ↔
    ∃ fields, d.settled content = .ok fields ∧ fields.complete = .ok s := by
  unfold build
  cases hset : d.settled content with
  | error e => simp [bind, Except.bind]
  | ok fields =>
    show fields.complete.mapError Fault.missingFields = .ok s ↔ _
    rw [mapError_eq_ok_iff]
    simp

/-- Settling the write channel leaves every other field as it is. -/
theorem get?_of_settled {fields : PartialSettings} (h : d.settled content = .ok fields) {f : Field}
    (hf : f ≠ .writeChannel) : fields.get? f = d.fields.get? f := by
  unfold settled at h
  split at h
  · cases h
    rfl
  · cases h
  · cases h
    exact PartialSettings.get?_assign_of_ne _ hf.symm _

theorem get?_of_build (h : (d.build content).result = .ok s) {f : Field} (hf : f ≠ .writeChannel) :
    d.fields.get? f = some (s.get f) := by
  obtain ⟨fields, hset, hcomplete⟩ := build_eq_ok_iff.mp h
  rw [← get?_of_settled hset hf]
  exact PartialSettings.get_of_complete hcomplete f

theorem writeChannel_of_direct (h : (d.build content).result = .ok s) (hd : d.source = .direct) :
    d.fields.get? .writeChannel = some s.writeChannel := by
  obtain ⟨fields, hset, hcomplete⟩ := build_eq_ok_iff.mp h
  simp only [settled, hd, Except.ok.injEq] at hset
  subst hset
  exact PartialSettings.get_of_complete hcomplete .writeChannel

theorem writeChannel_of_held (h : (d.build content).result = .ok s) (hd : d.source = .drafted)
    {c : ChannelId} (hc : d.held? = some c) : s.writeChannel = content c := by
  obtain ⟨fields, hset, hcomplete⟩ := build_eq_ok_iff.mp h
  simp only [settled, hd, hc, Except.ok.injEq] at hset
  subst hset
  have hget := PartialSettings.get_of_complete hcomplete .writeChannel
  rw [PartialSettings.get?_assign_self] at hget
  exact (Option.some.inj hget).symm

/-- Once the write channel is taken from a write-channel draft, a value that is set directly does not
count. -/
theorem build_assign_writeChannel (hd : d.source = .drafted) (w : WriteChannel) :
    ((d.assign .writeChannel w).build content).result = (d.build content).result := by
  have hsettled : (d.assign .writeChannel w).settled content = d.settled content := by
    simp only [settled, Draft.assign, hd]
    cases d.held? with
    | none => rfl
    | some c => exact congrArg Except.ok (PartialSettings.assign_assign _ _ _ _)
  simp only [build, hsettled]

/-- A draft that is to take its write channel from a draft and holds none is not built. -/
theorem build_of_nothingInstalled (hd : d.source = .drafted) (hc : d.held? = none) :
    (d.build content).result = .error .nothingInstalled := by
  simp [build, settled, hd, hc, bind, Except.bind]

end Draft

end ObjectStorage

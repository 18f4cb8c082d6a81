import ObjectStorage.Draft

/-!
# What drafts are made with

* `Draft.ext_get?`: a draft is determined by its fields, its source and what it holds.
* `reopen_eq`, `fresh_eq_reopen`: the setters of a reopened draft leave the fields of the settings, those of
  a fresh one the defaults, and both take the write channel directly and hold no write-channel draft.
* `assign_reopen`: a setter on a reopened draft sets the field in the settings.
* `Draft.Directly d s`: `d` has the fields of `s` and takes its write channel from what was set directly, as
  the reopened draft of `s` does. `Directly.build` says that it is built to `s`.
-/

namespace ObjectStorage

/-- Setting a field among those of some settings is setting it in the settings. -/
theorem PartialSettings.assign_ofSettings (s : Settings) (f : Field) (v : f.Value) :
    (ofSettings s).assign f v = ofSettings (s.set f v) := by
  unfold assign ofSettings
  congr 1
  funext g
  by_cases hg : f = g
  · subst hg
    simp
  · simp [hg, Settings.get_set_of_ne _ (Ne.symm hg)]

namespace Draft

variable {d : Draft}

/-- Two drafts with the same fields and source that hold the same are the same. -/
theorem ext_get? {d' : Draft} (hfields : ∀ f, d.fields.get? f = d'.fields.get? f)
    (hsource : d.source = d'.source) (hheld : d.held? = d'.held?) : d = d' := by
  obtain ⟨⟨get?⟩, source, held?⟩ := d
  obtain ⟨⟨get?'⟩, source', held?'⟩ := d'
  obtain rfl : get? = get?' := funext hfields
  obtain rfl : source = source' := hsource
  obtain rfl : held? = held?' := hheld
  rfl

/-- The setters of a reopened draft are those of all fields, in declaration order. -/
theorem reopen_eq_foldl (s : Settings) :
    reopen s = Field.all.foldl (fun d f => d.assign f (s.get f)) bare := rfl

theorem reopen_eq (s : Settings) : reopen s = ⟨.ofSettings s, .direct, none⟩ := by
  refine ext_get? (fun f => ?_) rfl rfl
  cases f <;> rfl

/-- The texts that a fresh draft leaves out are left out by default. -/
theorem fresh_eq_reopen : fresh = reopen .default := by
  refine ext_get? (fun f => ?_) rfl rfl
  cases f <;> rfl

theorem assign_reopen (s : Settings) (f : Field) (v : f.Value) :
    (reopen s).assign f v = reopen (s.set f v) := by
  rw [reopen_eq, reopen_eq, assign, PartialSettings.assign_ofSettings]

/-! ## Drafts with the fields of settings -/

/-- A draft with the fields of settings that takes its write channel from what was set directly. A
write-channel draft that it holds would not count. -/
structure Directly (d : Draft) (s : Settings) : Prop where
  fields : d.fields = .ofSettings s
  source : d.source = .direct

variable {s : Settings}

theorem directly_reopen (s : Settings) : (reopen s).Directly s := by
  rw [reopen_eq]
  exact ⟨rfl, rfl⟩

theorem Directly.assign (h : d.Directly s) (f : Field) (v : f.Value) :
    (d.assign f v).Directly (s.set f v) :=
  ⟨by rw [Draft.assign, h.fields, PartialSettings.assign_ofSettings], h.source⟩

theorem Directly.build (h : d.Directly s) (content : ChannelId → WriteChannel) :
    d.build content = .done s := by
  simp only [Draft.build, settled, log, h.source, h.fields]
  show (⟨(PartialSettings.ofSettings s).complete.mapError .missingFields, [], []⟩ : Outcome Settings) =
    .done s
  rw [PartialSettings.complete_ofSettings]
  rfl

/-- Building a reopened draft gives the settings back. -/
@[simp] theorem build_reopen (s : Settings) (content : ChannelId → WriteChannel) :
    (reopen s).build content = .done s :=
  (directly_reopen s).build content

end Draft

end ObjectStorage

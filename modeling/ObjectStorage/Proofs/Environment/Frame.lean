import ObjectStorage.Proofs.Environment.Drafts
import ObjectStorage.Proofs.Environment.Texts

/-!
# What a variable reaches

* `Environment.SameBut v env env'`: two environments with the same value under every name but that of `v`.
* `Environment.Unset env v`: a variable that is missing, or whose value is null or the empty text.
* `part_eq_of_given?`: a part of settings depends on what is given for its own variable alone.
* `draft_frame`: a variable reaches its own part of the settings and no other; a field whose variables are
  unset has its default; and a draft from an environment takes its write channel from what is set directly.
-/

namespace ObjectStorage.Environment

variable {env env' : Environment} {v : Variable} {s s' : Settings}

/-- Two environments have the same value under every name but that of one variable. -/
def SameBut (v : Variable) (env env' : Environment) : Prop :=
  ∀ name, name ≠ v.name → env.entries.lookup name = env'.entries.lookup name

/-- A variable is missing, or its value is null or the empty text. -/
def Unset (env : Environment) (v : Variable) : Prop :=
  env.entries.lookup v.name ∈ [none, some .null, some (.text "")]

/-! ## What is given -/

theorem given?_of_unset (h : env.Unset v) : env.given? v = none := by
  simp only [Unset, List.mem_cons, List.not_mem_nil, or_false] at h
  rcases h with h | h | h <;> simp [given?, h]

theorem given?_of_sameBut (h : SameBut v env env') {u : Variable} (hu : u ≠ v) :
    env.given? u = env'.given? u := by
  have hname : u.name ≠ v.name := fun hname => hu (Variable.name_injective hname)
  rw [given?, given?, h u.name hname]

/-! ## What settings are made of -/

/-- A part of settings depends on what is given for its own variable alone. -/
theorem part_eq_of_given? (hs : env.settings = .ok s) (hs' : env'.settings = .ok s')
    (h : env.given? v = env'.given? v) : v.part s = v.part s' := by
  rcases part_settings hs v with ⟨hnone, hpart⟩ | ⟨raw, x, hgiven, hread, hpart⟩
  · rw [hpart, part_of_not_given hs' (h.symm.trans hnone)]
  · rw [hpart, part_of_given hs' (h.symm.trans hgiven) hread]

/-- No environment changes the write channel. -/
theorem writeChannel_eq (hs : env.settings = .ok s) (hs' : env'.settings = .ok s') :
    s.writeChannel = s'.writeChannel := by
  rw [writeChannel_settings hs, writeChannel_settings hs']

/-- A variable that differs changes no field but its own, and of that no part but its own. -/
theorem frame_of_sameBut (h : SameBut v env env') (hs : env.settings = .ok s)
    (hs' : env'.settings = .ok s') :
    (∀ f, f ≠ v.target → s.get f = s'.get f) ∧ ∀ u : Variable, u ≠ v → u.part s = u.part s' := by
  have hparts : ∀ u : Variable, u ≠ v → u.part s = u.part s' := fun u hu =>
    part_eq_of_given? hs hs' (given?_of_sameBut h hu)
  refine ⟨fun f hf => ?_, hparts⟩
  refine Variable.get_eq_of_parts (writeChannel_eq hs hs') fun u hu => hparts u ?_
  rintro rfl
  exact hf hu.symm

/-- A field whose variables are all unset has its default. -/
theorem get_of_unset (hs : env.settings = .ok s) {f : Field}
    (h : ∀ v : Variable, v.target = f → env.Unset v) : s.get f = Settings.default.get f :=
  Variable.get_eq_of_parts (writeChannel_settings hs) fun v hv =>
    part_of_not_given hs (given?_of_unset (h v hv))

/-! ## Drafts -/

/-- What a draft from an environment is built to, whatever the write-channel drafts hold. -/
theorem build_of_draft {d : Draft} (h : env.draft.result = .ok d) :
    d.source = .direct ∧
      ∃ s, env.settings = .ok s ∧ ∀ content, (d.build content).result = .ok s := by
  obtain ⟨s, hs, rfl⟩ := draft_eq_ok_iff.mp h
  refine ⟨(Draft.directly_reopen s).source, s, hs, fun content => ?_⟩
  rw [Draft.build_reopen]
  rfl

/-- **A variable reaches its own part of the settings and no other.** If two environments differ in one
variable alone and there is a draft of each, then what the drafts are built to agrees in every field but
the one that the variable is for, and of that field in every part that is for another variable.
In what a draft from an environment is built to, a field whose variables are unset has its default, and so
has each part whose variable is unset; and the write channel of such a draft is set directly. -/
theorem draft_frame :
    (∀ (env env' : Environment) (v : Variable) (d d' : Draft), SameBut v env env' →
      env.draft.result = .ok d → env'.draft.result = .ok d' →
      ∃ s s', (∀ content, (d.build content).result = .ok s) ∧
        (∀ content, (d'.build content).result = .ok s') ∧
        (∀ f, f ≠ v.target → s.get f = s'.get f) ∧
        ∀ u : Variable, u ≠ v → u.part s = u.part s') ∧
    ∀ (env : Environment) (d : Draft), env.draft.result = .ok d →
      d.source = .direct ∧ ∃ s, (∀ content, (d.build content).result = .ok s) ∧
        (∀ f, (∀ v : Variable, v.target = f → env.Unset v) → s.get f = Settings.default.get f) ∧
        ∀ v : Variable, env.Unset v → v.part s = v.part .default := by
  constructor
  · intro env env' v d d' h hd hd'
    obtain ⟨-, s, hs, hbuild⟩ := build_of_draft hd
    obtain ⟨-, s', hs', hbuild'⟩ := build_of_draft hd'
    exact ⟨s, s', hbuild, hbuild', frame_of_sameBut h hs hs'⟩
  · intro env d hd
    obtain ⟨hsource, s, hs, hbuild⟩ := build_of_draft hd
    exact ⟨hsource, s, hbuild, fun f hf => get_of_unset hs hf,
      fun v hv => part_of_not_given hs (given?_of_unset hv)⟩

/-- A mode, and a list of bucket names that holds none. -/
def namelessBuckets : Environment :=
  ofTexts [("CLOUDSTORE_REQUESTER_PAYS_MODE", "custom"), ("CLOUDSTORE_REQUESTER_PAYS_BUCKETS", " , ")]

/-- The same mode, and one bucket name. -/
def singleBucket : Environment :=
  ofTexts [("CLOUDSTORE_REQUESTER_PAYS_BUCKETS", "b"), ("CLOUDSTORE_REQUESTER_PAYS_MODE", "custom")]

theorem sameBut_singleBucket : SameBut .payerBuckets namelessBuckets singleBucket := by
  intro name hname
  have hbuckets : (name == "CLOUDSTORE_REQUESTER_PAYS_BUCKETS") = false := by
    simpa [Variable.name, Variable.label, Variable.namespaceMark] using hname
  simp [namelessBuckets, singleBucket, lookup_ofTexts, List.lookup_cons, hbuckets]

theorem draft_frame_buckets :
    SameBut .payerBuckets namelessBuckets singleBucket ∧ namelessBuckets.Unset .payerProject ∧
      ∃ d d' s s', namelessBuckets.draft.result = .ok d ∧ singleBucket.draft.result = .ok d' ∧
        (∀ content, (d.build content).result = .ok s) ∧
        (∀ content, (d'.build content).result = .ok s') ∧
        s.requesterPays.mode = s'.requesterPays.mode ∧ s.requesterPays.mode = .custom ∧
        s.requesterPays.project = none ∧ s.requesterPays.buckets ≠ s'.requesterPays.buckets := by
  obtain ⟨hframe, hbuilt⟩ := draft_frame
  have hd : namelessBuckets.draft.result = .ok _ := rfl
  have hd' : singleBucket.draft.result = .ok _ := rfl
  have hunset : namelessBuckets.Unset .payerProject := List.mem_cons.mpr (.inl rfl)
  obtain ⟨s, s', hs, hs', -, hparts⟩ := hframe _ _ _ _ _ sameBut_singleBucket hd hd'
  obtain ⟨-, t, ht, -, hdefault⟩ := hbuilt _ _ hd
  obtain rfl : s = t := Except.ok.inj ((hs fun _ => .default).symm.trans (ht fun _ => .default))
  have hs₀ : s = _ := Except.ok.inj ((hs fun _ => .default).symm.trans rfl)
  have hs₀' : s' = _ := Except.ok.inj ((hs' fun _ => .default).symm.trans rfl)
  refine ⟨sameBut_singleBucket, hunset, _, _, s, s', hd, hd', hs, hs', ?_, ?_, ?_, ?_⟩
  · exact hparts .payerMode (by decide)
  · rw [hs₀]
    rfl
  · exact hdefault .payerProject hunset
  · rw [hs₀, hs₀']
    decide

end ObjectStorage.Environment

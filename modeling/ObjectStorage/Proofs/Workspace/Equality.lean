import ObjectStorage.Proofs.Document.Alike
import ObjectStorage.Proofs.Workspace.Denotation
import ObjectStorage.Proofs.Workspace.Setters

/-!
# Equality of finished values

* `Billing.make_inj_iff`: requester-pays values are equal if their buckets are the same as sets, in whatever order
  and however often the names were given.
* `Settings.set_eq_self_iff`: settings with a field replaced are the settings if the field has that value.
* `Workspace.equal_iff_alike`: two names stand for equal finished values exactly if the documents of the values
  are the same as mappings.
-/

namespace ObjectStorage

/-! ## Values that are made -/

/-- Two requester-pays values are equal if they were made of the same mode and project, and of lists with the
same bucket names. -/
theorem Billing.make_inj_iff {b b' : Billing} {r r' : RequesterPays} (h : b.make = .ok r)
    (h' : b'.make = .ok r') :
    r = r' ↔ b.mode = b'.mode ∧ b.project = b'.project ∧ ∀ name, name ∈ b.buckets ↔ name ∈ b'.buckets := by
  obtain ⟨hmode, hproject, hbuckets⟩ := make_eq_ok_iff.mp h
  obtain ⟨hmode', hproject', hbuckets'⟩ := make_eq_ok_iff.mp h'
  constructor
  · rintro rfl
    refine ⟨hmode.trans hmode'.symm, hproject.trans hproject'.symm, fun name => ?_⟩
    rw [← Buckets.mem_ofList, ← Buckets.mem_ofList, hbuckets, hbuckets']
  · rintro ⟨hm, hp, hnames⟩
    obtain ⟨m, p, names⟩ := r
    obtain ⟨m', p', names'⟩ := r'
    obtain rfl : m = m' := RequesterPays.Mode.name_injective (hmode.symm.trans (hm.trans hmode'))
    obtain rfl : p = p' := hproject.symm.trans (hp.trans hproject')
    have hsame : Buckets.ofList b.buckets = .ofList b'.buckets :=
      Buckets.ext fun name => by rw [Buckets.mem_ofList, Buckets.mem_ofList, hnames name]
    obtain rfl : names = names' := hbuckets.symm.trans (hsame.trans hbuckets')
    rfl

/-! ## Fields that are replaced -/

/-- Settings with a field replaced are the settings exactly if the field has that value. -/
theorem Settings.set_eq_self_iff {s : Settings} {f : Field} {v : f.Value} : s.set f v = s ↔ v = s.get f := by
  constructor
  · intro h
    rw [← get_set_self s f v, h]
  · rintro rfl
    exact set_get_self s f

/-! ## Names -/

namespace Workspace

variable {ws : Workspace} {x y name : String} {v w : Value}

/-- A name stands for a finished value by its place. -/
theorem value?_eq_some_iff :
    ws.value? name = some v ↔ ∃ place, ws.object? name = some (.value place) ∧ ws.values[place]? = some v := by
  unfold value?
  rcases ws.object? name with _ | (place | place | place) <;> simp

/-- A comparison of two names of finished values compares the values. -/
theorem step_equal (hx : ws.value? x = some v) (hy : ws.value? y = some w) :
    ws.step (.equal x y) = answer (.equal (v = w)) ws := by
  obtain ⟨i, hi, hv⟩ := value?_eq_some_iff.mp hx
  obtain ⟨j, hj, hw⟩ := value?_eq_some_iff.mp hy
  simp [step, compare, hi, hj, equalObjects, hv, hw]

/-- A further value leaves the values of other names as they are. -/
theorem value?_addValue_of_ne (hx : ws.value? x = some v) (hname : x ≠ name) (w : Value) :
    (ws.addValue name w).value? x = some v := by
  obtain ⟨i, hi, hv⟩ := value?_eq_some_iff.mp hx
  refine value?_eq_some_iff.mpr ⟨i, (object?_bind_of_ne _ hname _).trans hi, ?_⟩
  exact (List.getElem?_append_left (List.getElem?_eq_some_iff.mp hv).1).trans hv

/-- Replacing a field by a value that can be used adds the settings that have this value there. -/
theorem step_replace {s : Settings} (hx : ws.value? x = some (.settings s)) {f : Field} {given : Given}
    {u : f.Value} (hu : given.read ws.value? f.kind = .ok u) :
    ws.step (.replace x f.key given name) =
      answer (.value (.settings (s.set f u))) (ws.addValue name (.settings (s.set f u))) := by
  have hreplace : (Value.settings s).replace ws.value? f.key given = .ok (.settings (s.set f u)) := by
    rw [Value.replace, Settings.replace_key, hu]
    rfl
  rw [step, onValue, hx]
  dsimp only
  rw [hreplace]
  rfl

/-! ## Equality -/

/-- **Finished values are equal by content.** A comparison of the names of two finished values answers whether
the values are equal, and that is whether their documents are the same as mappings. Requester-pays values are
equal if the mode and the project that they were made of are, and if the lists of their buckets have the same
members.
Every value of a kind can be handed over for a field of settings. Replacing a field by a value makes settings that
are equal to those before exactly if the field had this value. -/
theorem equal_iff_alike (ws : Workspace) :
    (∀ x y v w, ws.value? x = some v → ws.value? y = some w →
      ws.step (.equal x y) = answer (.equal (v = w)) ws ∧ (v = w ↔ v.document.Alike w.document)) ∧
    (∀ (b b' : Billing) r r', b.make = .ok r → b'.make = .ok r' →
      (r = r' ↔ b.mode = b'.mode ∧ b.project = b'.project ∧ ∀ name, name ∈ b.buckets ↔ name ∈ b'.buckets)) ∧
    (∀ k v, (Given.ofValue k v).read ws.value? k = .ok v) ∧
    ∀ x s f given u name, ws.value? x = some (.settings s) → given.read ws.value? f.kind = .ok u → name ≠ x →
      ∃ ws', ws.step (.replace x f.key given name) = answer (.value (.settings (s.set f u))) ws' ∧
        ws'.step (.equal name x) = answer (.equal (u = s.get f)) ws' := by
  refine ⟨?_, fun b b' r r' => Billing.make_inj_iff, Given.read_ofValue ws.value?, ?_⟩
  · intro x y v w hx hy
    exact ⟨step_equal hx hy, Value.alike_document_iff.symm⟩
  · intro x s f given u name hx hu hname
    refine ⟨_, step_replace hx hu, ?_⟩
    rw [step_equal (value?_addValue_self _) (value?_addValue_of_ne hx hname.symm _)]
    simp only [Value.settings.injEq, Settings.set_eq_self_iff]

/-- Two bucket names. -/
def ascendingBilling : Billing := ⟨"custom", none, ["archive", "logs"]⟩

/-- The same names, one of them again. -/
def repeatedBilling : Billing := ⟨"custom", none, ["logs", "archive", "logs"]⟩

/-- Two requester-pays values and the default settings. -/
def equalityRun : List Step :=
  [.makeRequesterPays ascendingBilling "ascending", .makeRequesterPays repeatedBilling "repeated",
    .freshDraft "draft", .build "draft" "settings"]

theorem equal_of_equalityRun :
    ∃ ws, (empty.run equalityRun).2 = ws ∧
      ws.step (.equal "ascending" "repeated") = answer (.equal true) ws ∧
      ∃ ws', (ws.step (.replace "settings" Field.batchThreads.key (.number 7) "changed")).2 = ws' ∧
        ws'.step (.equal "changed" "settings") = answer (.equal false) ws' := by
  obtain ⟨hequal, hmade, -, hreplace⟩ := equal_iff_alike (empty.run equalityRun).2
  have hnames (name : String) : name ∈ ascendingBilling.buckets ↔ name ∈ repeatedBilling.buckets := by
    simp only [ascendingBilling, repeatedBilling, List.mem_cons, List.not_mem_nil, or_false]
    grind
  have hsame := (hmade ascendingBilling repeatedBilling _ _ rfl rfl).mpr ⟨rfl, rfl, hnames⟩
  refine ⟨_, rfl, ?_, ?_⟩
  · refine (hequal "ascending" "repeated" _ _ rfl rfl).1.trans ?_
    rw [hsame, decide_eq_true rfl]
  · obtain ⟨ws', hstep, hanswer⟩ :=
      hreplace "settings" .default .batchThreads (.number 7) 7 "changed" rfl rfl (by decide)
    exact ⟨ws', congrArg Prod.snd hstep, hanswer⟩

end Workspace

end ObjectStorage

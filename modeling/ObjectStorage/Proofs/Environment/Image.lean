import ObjectStorage.Proofs.Environment.Drafts
import ObjectStorage.Proofs.Environment.Texts
import ObjectStorage.Proofs.Environment.Writing

/-!
# The settings of environments

* `Settings.FromTexts`: what can be said of all settings that are taken from an environment of texts.
* `Settings.texts`: the entries that write some settings out, one for each variable that has a text.
* `fromTexts_of_settings`: settings from an environment of texts are such.
* `settings_of_perm_texts`: such settings, written out in any order, are taken from the entries again.
-/

namespace ObjectStorage

open Environment

/-! ## Settings that are taken from texts -/

/-- What can be said of all settings that are taken from texts. -/
structure Settings.FromTexts (s : Settings) : Prop where
  writeChannel : s.writeChannel = .default
  parts : ∀ v : Variable, v.form.Fits (v.part s)

theorem Variable.fits_default (v : Variable) : v.form.Fits (v.part .default) := by
  cases v <;> decide

/-- Settings from an environment of texts fit. -/
theorem Environment.fromTexts_of_settings {E : List (String × String)} {s : Settings}
    (h : (ofTexts E).settings = .ok s) : s.FromTexts := by
  refine ⟨writeChannel_settings h, fun v => ?_⟩
  rcases part_settings h v with ⟨-, hpart⟩ | ⟨raw, x, hgiven, hread, hpart⟩
  · rw [hpart]
    exact v.fits_default
  · obtain ⟨t, -, ht, rfl⟩ := given?_ofTexts_eq_some_iff.mp hgiven
    rw [hpart]
    exact Variable.Form.fits_of_read ht hread

/-! ## Settings written out -/

/-- The entries that write settings out: for each variable the text of its part, if that has one. -/
def Settings.texts (s : Settings) (order : Buckets → List String) : List (String × String) :=
  Variable.all.filterMap fun v => (v.form.text? order (v.part s)).map (v.name, ·)

variable {s : Settings} {order : Buckets → List String} {entries : List (String × String)}

theorem Settings.mem_texts {v : Variable} {t : String} :
    (v.name, t) ∈ s.texts order ↔ v.form.text? order (v.part s) = some t := by
  unfold texts
  rw [List.mem_filterMap]
  constructor
  · rintro ⟨u, -, hu⟩
    obtain ⟨t', ht', heq⟩ := Option.map_eq_some_iff.mp hu
    obtain ⟨hname, rfl⟩ := Prod.mk.inj heq
    obtain rfl := Variable.name_injective hname
    exact ht'
  · intro h
    exact ⟨v, Variable.mem_all v, by rw [h]; rfl⟩

theorem Settings.nodup_texts (s : Settings) (order : Buckets → List String) :
    ((s.texts order).map Prod.fst).Nodup := by
  rw [List.Nodup, texts, List.pairwise_map, List.pairwise_filterMap]
  refine Variable.nodup_all.imp fun hne e he e' he' hname => ?_
  obtain ⟨t, -, rfl⟩ := Option.map_eq_some_iff.mp he
  obtain ⟨t', -, rfl⟩ := Option.map_eq_some_iff.mp he'
  exact hne (Variable.name_injective hname)

/-- A variable without a text has its default. -/
theorem Variable.part_eq_default {v : Variable} (h : v.form.text? order (v.part s) = none) :
    v.part s = v.part .default := by
  cases v
  case payerBuckets =>
    have hnames : s.requesterPays.buckets.names = [] := by
      by_cases hnames : s.requesterPays.buckets.names = []
      · exact hnames
      · exact absurd h (by simp [part, Form.text?, hnames])
    show s.requesterPays.buckets = .empty
    refine Buckets.ext fun name => ?_
    rw [Buckets.mem_def, Buckets.mem_def, hnames]
    rfl
  all_goals first | exact h | cases h

section

variable (hs : s.FromTexts) (horder : ∀ b name, name ∈ order b ↔ name ∈ b)
  (hperm : entries.Perm (s.texts order))

include hs horder hperm

/-- Entries that write settings out give each variable the text of its part. -/
theorem given?_of_perm_texts {v : Variable} {raw : Raw} : (ofTexts entries).given? v = some raw ↔
    ∃ t, v.form.text? order (v.part s) = some t ∧ raw = .text t := by
  have hnodup : (entries.map Prod.fst).Nodup := (hperm.map Prod.fst).symm.nodup (s.nodup_texts order)
  rw [given?_ofTexts_iff hnodup]
  simp only [Sets, hperm.mem_iff, Settings.mem_texts]
  constructor
  · rintro ⟨t, ⟨ht, -⟩, rfl⟩
    exact ⟨t, ht, rfl⟩
  · rintro ⟨t, ht, rfl⟩
    refine ⟨t, ⟨ht, ?_⟩, rfl⟩
    rintro rfl
    exact Variable.Form.text?_ne_empty horder (hs.parts v) ht

variable (hshort : ∀ v : Variable, v.form.IsShort (v.part s))

include hshort

/-- Whatever is given by entries that write settings out is read as the part it was written for. -/
theorem read_of_perm_texts {v : Variable} {raw : Raw} (h : (ofTexts entries).given? v = some raw) :
    ∃ x, v.form.read raw = .ok x ∧ v.form.part x = v.part s := by
  obtain ⟨t, ht, rfl⟩ := (given?_of_perm_texts hs horder hperm).mp h
  exact Variable.Form.read_of_text? horder (hs.parts v) (hshort v) ht

/-- Settings that fit, with short integers, written out in any order are taken from the entries again. -/
theorem settings_of_perm_texts : (ofTexts entries).settings = .ok s := by
  have hread : ∀ v, ∃ o, (ofTexts entries).read? v = .ok o := by
    intro v
    rw [exists_read?_eq_ok_iff]
    intro raw hgiven
    obtain ⟨x, hx, -⟩ := read_of_perm_texts hs horder hperm hshort hgiven
    exact ⟨x, hx⟩
  have hsettings := settings_eq_ok_iff.mpr ⟨hread, rfl⟩
  rw [hsettings]
  refine congrArg Except.ok (Variable.ext_part (fun v => ?_) ?_)
  · rcases part_settings hsettings v with ⟨hnone, hpart⟩ | ⟨raw, x, hgiven, hx, hpart⟩
    · -- a variable is left out only if its part is the default
      have htext : v.form.text? order (v.part s) = none := by
        cases ht : v.form.text? order (v.part s) with
        | none => rfl
        | some t =>
          rw [(given?_of_perm_texts hs horder hperm).mpr ⟨t, ht, rfl⟩] at hnone
          cases hnone
      rw [hpart, Variable.part_eq_default htext]
    · obtain ⟨y, hy, hsame⟩ := read_of_perm_texts hs horder hperm hshort hgiven
      obtain rfl : x = y := Except.ok.inj (hx.symm.trans hy)
      rw [hpart, hsame]
  · rw [writeChannel_settings hsettings, hs.writeChannel]

end

/-! ## Drafts -/

/-- **Settings and environments of texts.** A draft that is made from an environment of texts is built,
and what it is built to is settings from texts: the write channel is the default, no text is empty, no
integer has too many digits, and the bucket names are listable.
Conversely, write such settings out, in any order of the entries and of the bucket names: if the integers
are short enough, there is a draft of the entries, and it is built to the same settings. -/
theorem build_ofTexts :
    (∀ (E : List (String × String)) (d : Draft), (ofTexts E).draft.result = .ok d →
      ∃ s : Settings, (∀ content, (d.build content).result = .ok s) ∧ s.FromTexts) ∧
    ∀ (s : Settings) (order : Buckets → List String) (entries : List (String × String)),
      s.FromTexts → (∀ v : Variable, v.form.IsShort (v.part s)) →
      (∀ b name, name ∈ order b ↔ name ∈ b) → entries.Perm (s.texts order) →
      ∃ d, (ofTexts entries).draft.result = .ok d ∧ ∀ content, (d.build content).result = .ok s := by
  constructor
  · intro E d hd
    obtain ⟨s, hs, rfl⟩ := draft_eq_ok_iff.mp hd
    exact ⟨s, fun content => by rw [Draft.build_reopen]; rfl, fromTexts_of_settings hs⟩
  · intro s order entries hs hshort horder hperm
    refine ⟨.reopen s, draft_eq_ok_iff.mpr ⟨s, ?_, rfl⟩, fun content => by rw [Draft.build_reopen]; rfl⟩
    exact settings_of_perm_texts hs horder hperm hshort

/-- Entries with blanks, underscores, an empty bucket name and a variable that means nothing. -/
def looseTexts : List (String × String) :=
  [("CLOUDSTORE_BATCH_THREADS", " -0_7.0 "), ("CLOUDSTORE_REQUESTER_PAYS_BUCKETS", " b ,,a"),
    ("CLOUDSTORE_APP_NAME", "web"), ("PATH", "/bin")]

/-- The settings of these entries. -/
def looseSettings : Settings :=
  { Settings.default with
    appName := some "web"
    batchThreads := -7
    requesterPays := ⟨.disabled, none, .ofList ["a", "b"]⟩ }

theorem build_looseTexts :
    (ofTexts looseTexts).draft.result = .ok (.reopen looseSettings) ∧ looseSettings.FromTexts ∧
      ("CLOUDSTORE_REQUESTER_PAYS_BUCKETS", "b,a") ∈
        (looseSettings.texts fun b => b.names.reverse).reverse ∧
      ∃ d, (ofTexts (looseSettings.texts fun b => b.names.reverse).reverse).draft.result = .ok d ∧
        ∀ content, (d.build content).result = .ok looseSettings := by
  have hdraft : (ofTexts looseTexts).draft.result = .ok (.reopen looseSettings) := draft_of_settings rfl
  obtain ⟨s, hs, hfrom⟩ := build_ofTexts.1 looseTexts _ hdraft
  obtain rfl : looseSettings = s := by
    have hbuilt := hs fun _ => .default
    rw [Draft.build_reopen] at hbuilt
    exact Except.ok.inj hbuilt
  refine ⟨hdraft, hfrom, by decide, build_ofTexts.2 looseSettings _ _ hfrom (fun v => ?_) ?_
    (List.reverse_perm _)⟩
  · cases v <;> decide
  · exact fun b name => List.mem_reverse

end ObjectStorage

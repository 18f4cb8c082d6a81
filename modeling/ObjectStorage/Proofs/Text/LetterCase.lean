import Mathlib.Data.List.Forall2
import ObjectStorage.Proofs.Text.Trimming
import ObjectStorage.Text.Name

/-!
# Names up to letter case

* `SameLetter c d`: two characters are the same, or the two cases of one letter of ASCII.
* `Spells s name`: less its outer blanks, the text `s` is the name, up to the case of its letters.
* `IsNameLetter d`: a character of ASCII that is its own lower case, other than `k`.
* `lowerAll_eq_iff`: the lower case of a text is a name of such characters exactly if the text is that name up
  to the case of its letters; no character outside ASCII takes the place of a letter.
* `folded?_eq_some_iff`: so the value that is found for a text is the one whose name the text spells.
-/

namespace ObjectStorage.Text

variable {c d : Char} {cs ds : List Char} {s name : String}

/-! ## Letters -/

/-- Two characters are the same, or the upper and the lower case of one letter of ASCII. -/
def SameLetter (c d : Char) : Prop :=
  c = d ∨ (c.isUpper = true ∧ d.toNat = c.toNat + 32) ∨ (d.isUpper = true ∧ c.toNat = d.toNat + 32)

/-- A character of ASCII that is its own lower case. The letter `k` is left out, since it is the lower case
of a character outside ASCII as well. -/
structure IsNameLetter (d : Char) : Prop where
  ascii : d.toNat < 128
  lower : d.isUpper = false
  ne_k : d ≠ 'k'

instance (d : Char) : Decidable (IsNameLetter d) :=
  decidable_of_iff (d.toNat < 128 ∧ d.isUpper = false ∧ d ≠ 'k')
    ⟨fun ⟨hascii, hlower, hk⟩ => ⟨hascii, hlower, hk⟩, fun h => ⟨h.ascii, h.lower, h.ne_k⟩⟩

theorem forall_isNameLetter (h : ds.all (fun d => decide (IsNameLetter d)) = true) :
    ∀ d ∈ ds, IsNameLetter d := fun d hd => of_decide_eq_true (List.all_eq_true.mp h d hd)

theorem isUpper_iff : c.isUpper = true ↔ 65 ≤ c.toNat ∧ c.toNat ≤ 90 := by
  show decide (c.val ≥ 'A'.val ∧ c.val ≤ 'Z'.val) = true ↔ _
  rw [decide_eq_true_iff, ge_iff_le, UInt32.le_iff_toNat_le, UInt32.le_iff_toNat_le]
  rfl

theorem toNat_toLower : c.toLower.toNat = if c.isUpper = true then c.toNat + 32 else c.toNat := by
  unfold Char.toLower
  by_cases hc : c.isUpper = true
  · rw [if_pos hc]
    obtain ⟨hlow, hhigh⟩ := isUpper_iff.mp hc
    have hval : 'A'.val ≤ c.val ∧ c.val ≤ 'Z'.val := by
      simp only [UInt32.le_iff_toNat_le]
      exact ⟨hlow, hhigh⟩
    rw [dif_pos hval]
    show (c.val + 32).toNat = c.val.toNat + 32
    rw [UInt32.toNat_add]
    have hsmall : c.val.toNat ≤ 90 := hhigh
    show (c.val.toNat + 32) % 2 ^ 32 = c.val.toNat + 32
    omega
  · rw [if_neg hc, dif_neg]
    rintro ⟨hlow, hhigh⟩
    simp only [UInt32.le_iff_toNat_le] at hlow hhigh
    exact hc (isUpper_iff.mpr ⟨hlow, hhigh⟩)

/-- The lower case of a character is a letter of names exactly if the two are one letter. -/
theorem toLower_eq_iff (hd : IsNameLetter d) : c.toLower = d ↔ SameLetter c d := by
  have hnat : c.toLower = d ↔ c.toLower.toNat = d.toNat := Char.toNat_inj.symm
  have hself : c = d ↔ c.toNat = d.toNat := Char.toNat_inj.symm
  have hlower : d.isUpper = false := hd.lower
  rw [SameLetter, hnat, toNat_toLower, hself, hlower]
  by_cases hc : c.isUpper = true
  · obtain ⟨hlow, hhigh⟩ := isUpper_iff.mp hc
    have hne : c.toNat ≠ d.toNat := by
      intro heq
      rw [Char.toNat_inj.mp heq, hlower] at hc
      cases hc
    rw [if_pos hc]
    simp only [hne, hc, true_and, false_or, Bool.false_eq_true, false_and, or_false]
    exact eq_comm
  · rw [if_neg hc]
    simp only [hc, false_and, Bool.false_eq_true, or_false]

/-- Of two characters that are one letter, one is in ASCII if the other is. -/
theorem SameLetter.ascii (h : SameLetter c d) (hd : d.toNat < 128) : c.toNat < 128 := by
  rcases h with rfl | ⟨hc, -⟩ | ⟨hupper, hnat⟩
  · exact hd
  · have hle := (isUpper_iff.mp hc).2
    omega
  · have hle := (isUpper_iff.mp hupper).2
    omega

theorem ascii_of_forall₂ (h : List.Forall₂ SameLetter cs ds) (hds : ∀ d ∈ ds, d.toNat < 128) :
    ∀ c ∈ cs, c.toNat < 128 := by
  induction h with
  | nil => exact List.forall_mem_nil _
  | cons hsame _ ih =>
    obtain ⟨hd, hds⟩ := List.forall_mem_cons.mp hds
    exact List.forall_mem_cons.mpr ⟨hsame.ascii hd, ih hds⟩

/-! ## Names -/

/-- The lower case of a text begins with a letter of names exactly if the text begins with that letter, in
either case; what follows is the lower case of the rest. -/
theorem lower_append_eq_cons_iff (hd : IsNameLetter d) (hds : ∀ e ∈ ds, IsNameLetter e) :
    lower c ++ cs = d :: ds ↔ SameLetter c d ∧ cs = ds := by
  have hascii := hd.ascii
  unfold lower
  split_ifs with hkelvin hdotted
  · -- the lower case of this sign is no letter of names, and it is outside ASCII
    subst hkelvin
    refine iff_of_false (fun h => hd.ne_k (List.cons.inj h).1.symm) fun h => ?_
    exact absurd (h.1.ascii hascii) (by decide)
  · -- behind the first character of this lower case there is one outside ASCII
    subst hdotted
    refine iff_of_false (fun h => ?_) fun h => absurd (h.1.ascii hascii) (by decide)
    have hmem : '\u0307' ∈ ds := by
      rw [← (List.cons.inj h).2]
      exact List.mem_cons_self
    exact absurd (hds _ hmem).ascii (by decide)
  · rw [List.singleton_append, List.cons.injEq, toLower_eq_iff hd]

/-- The lower case of a text is a name exactly if the text is the name up to the case of its letters. -/
theorem lowerAll_eq_iff (hds : ∀ d ∈ ds, IsNameLetter d) :
    lowerAll cs = ds ↔ List.Forall₂ SameLetter cs ds := by
  induction cs generalizing ds with
  | nil => rw [lowerAll_nil, List.forall₂_nil_left_iff, eq_comm]
  | cons c cs ih =>
    rw [lowerAll_cons]
    cases ds with
    | nil =>
      rw [List.forall₂_nil_right_iff]
      have hlen := length_le_length_lowerAll (c :: cs)
      refine iff_of_false (fun h => ?_) (List.cons_ne_nil _ _)
      rw [lowerAll_cons, h] at hlen
      exact absurd hlen (by simp)
    | cons d ds =>
      obtain ⟨hd, hds⟩ := List.forall_mem_cons.mp hds
      rw [lower_append_eq_cons_iff hd hds, ih hds, List.forall₂_cons]

/-- Less its outer blanks, a text is a name, up to the case of its letters. -/
def Spells (s name : String) : Prop :=
  ∃ core, IsCore isOuterBlank s.toList core ∧ List.Forall₂ SameLetter core name.toList

theorem spells_iff_fold (hname : ∀ d ∈ name.toList, IsNameLetter d) :
    Spells s name ↔ Name.fold s = name.toList := by
  rw [Name.fold, lowerAll_eq_iff hname, Spells]
  simp only [← trim_eq_iff, exists_eq_left']

/-- What spells a name of ASCII is in ASCII between its outer blanks. -/
theorem Spells.ascii (h : Spells s name) (hname : ∀ d ∈ name.toList, d.toNat < 128)
    (hcs : IsCore isOuterBlank s.toList cs) : ∀ c ∈ cs, c.toNat < 128 := by
  obtain ⟨core, hcore, hsame⟩ := h
  obtain rfl : core = cs := (trim_eq_iff.mpr hcore).symm.trans (trim_eq_iff.mpr hcs)
  exact ascii_of_forall₂ hsame hname

/-! ## Values with names -/

section Named

variable {α : Type} {all : List α} {a : α} {naming : α → String}

/-- The value that is found for a text is the one whose name the text spells, if no two have one name. -/
theorem folded?_eq_some_iff (hall : ∀ a, a ∈ all)
    (hletters : ∀ a, ∀ d ∈ (naming a).toList, IsNameLetter d)
    (hinj : ∀ a b, naming a = naming b → a = b) :
    Name.folded? all naming s = some a ↔ Spells s (naming a) := by
  rw [spells_iff_fold (hletters a)]
  constructor
  · intro h
    exact (Name.folded?_eq_some h).2.symm
  · intro h
    cases hfound : Name.folded? all naming s with
    | none =>
      have hnot := List.find?_eq_none.mp hfound a (hall a)
      simp [h] at hnot
    | some b =>
      have hb := (Name.folded?_eq_some hfound).2
      rw [hinj b a (String.toList_inj.mp (hb.trans h))]

end Named

end ObjectStorage.Text

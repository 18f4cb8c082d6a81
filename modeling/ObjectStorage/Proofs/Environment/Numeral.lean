import ObjectStorage.Environment.IntegerText
import ObjectStorage.Proofs.Text.Digits

/-!
# Numerals

* `Spaced cs ds`: the digits `ds`, at most one underscore between neighbours.
* `IsDigitText cs`: digits and underscores, with a digit at either end.
* `IsSign negative cs`, `IsFraction cs`: what may stand in front of the digits, and behind them.
* `IsNumeral n cs`: between blanks a sign, leading zeros and the digits of `n`, spaced, and a fraction.
* `isNumeral_integer`: the decimal text of an integer is a numeral of it.
* `IsPlain n cs`: a sign, digits and underscores, and a fraction; `IsLate n cs`: the same with the minus sign
  behind the leading zeros.
* `IsLate.not_isPlain`: no text has both forms.
-/

namespace ObjectStorage.IntegerText

open ObjectStorage.Text ObjectStorage.Text.Numeral

variable {c : Char} {cs ds body fraction : List Char} {n : Int}

/-- A digit is none of the other characters. -/
theorem ne_of_isDigit {d : Char} (h : isDigit c = true) (hd : isDigit d = false) : c ≠ d :=
  ne_of_apply_ne isDigit (by simp [h, hd])

/-! ## Digits and underscores -/

/-- Digits, at most one underscore between neighbours, and the digits alone. -/
inductive Spaced : List Char → List Char → Prop
  | one {c : Char} (h : isDigit c = true) : Spaced [c] [c]
  | next {c : Char} {cs ds : List Char} (h : isDigit c = true) (hs : Spaced cs ds) :
      Spaced (c :: cs) (c :: ds)
  | gap {c : Char} {cs ds : List Char} (h : isDigit c = true) (hs : Spaced cs ds) :
      Spaced (c :: '_' :: cs) (c :: ds)

/-- Digits and underscores, with a digit at either end. -/
structure IsDigitText (cs : List Char) : Prop where
  chars : ∀ c ∈ cs, isDigit c = true ∨ c = '_'
  first : ∃ c ∈ cs.head?, isDigit c = true
  last : ∃ c ∈ cs.getLast?, isDigit c = true

theorem Spaced.exists_cons (h : Spaced cs ds) : ∃ c rest, cs = c :: rest ∧ isDigit c = true := by
  cases h with
  | one h => exact ⟨_, _, rfl, h⟩
  | next h hs => exact ⟨_, _, rfl, h⟩
  | gap h hs => exact ⟨_, _, rfl, h⟩

theorem Spaced.ne_nil (h : Spaced cs ds) : ds ≠ [] := by
  cases h <;> simp

theorem Spaced.isDigit (h : Spaced cs ds) : ∀ c ∈ ds, isDigit c = true := by
  induction h with
  | one h => simpa using h
  | next h hs ih => exact List.forall_mem_cons.mpr ⟨h, ih⟩
  | gap h hs ih => exact List.forall_mem_cons.mpr ⟨h, ih⟩

theorem Spaced.filter_eq (h : Spaced cs ds) : cs.filter Numeral.isDigit = ds := by
  have hgap : Numeral.isDigit '_' = false := by decide
  induction h with
  | one h => simp [h]
  | next h hs ih => simp [h, ih]
  | gap h hs ih => simp [h, hgap, ih]

theorem Spaced.isDigitText (h : Spaced cs ds) : IsDigitText cs := by
  induction h with
  | one h => exact ⟨by simp [h], ⟨_, rfl, h⟩, ⟨_, rfl, h⟩⟩
  | @next c cs ds h hs ih =>
    obtain ⟨d, rest, rfl, -⟩ := hs.exists_cons
    refine ⟨List.forall_mem_cons.mpr ⟨.inl h, ih.chars⟩, ⟨c, rfl, h⟩, ?_⟩
    rw [List.getLast?_cons_cons]
    exact ih.last
  | @gap c cs ds h hs ih =>
    obtain ⟨d, rest, rfl, -⟩ := hs.exists_cons
    refine ⟨?_, ⟨c, rfl, h⟩, ?_⟩
    · exact List.forall_mem_cons.mpr ⟨.inl h, List.forall_mem_cons.mpr ⟨.inr rfl, ih.chars⟩⟩
    · rw [List.getLast?_cons_cons, List.getLast?_cons_cons]
      exact ih.last

theorem spaced_of_digits (hne : cs ≠ []) (h : ∀ c ∈ cs, isDigit c = true) : Spaced cs cs := by
  induction cs with
  | nil => exact absurd rfl hne
  | cons c cs ih =>
    obtain ⟨hc, hcs⟩ := List.forall_mem_cons.mp h
    by_cases hnil : cs = []
    · subst hnil
      exact .one hc
    · exact .next hc (ih hnil hcs)

/-- The number of the digits has no more digits than they are. -/
theorem Spaced.length_digits_le (h : Spaced cs ds) : (digits (value ds)).length ≤ ds.length :=
  length_digits_value_le h.ne_nil h.isDigit

/-! ## Leading zeros -/

theorem isFiller_iff : isFiller c = true ↔ c = '0' ∨ c = '_' := by
  simp [isFiller]

theorem isDigit_or_of_isFiller (h : isFiller c = true) : isDigit c = true ∨ c = '_' := by
  rcases isFiller_iff.mp h with rfl | rfl
  · exact .inl rfl
  · exact .inr rfl

/-- Zeros and underscores in front do not count. -/
theorem value_filter_append {lead tail : List Char} (h : ∀ c ∈ lead, isFiller c = true) :
    value ((lead ++ tail).filter isDigit) = value (tail.filter isDigit) := by
  induction lead with
  | nil => rfl
  | cons c lead ih =>
    obtain ⟨hc, hlead⟩ := List.forall_mem_cons.mp h
    rcases isFiller_iff.mp hc with rfl | rfl
    · have hzero : isDigit '0' = true := by decide
      rw [List.cons_append, List.filter_cons_of_pos hzero, value_zero_cons, ih hlead]
    · have hgap : isDigit '_' = false := by decide
      rw [List.cons_append, List.filter_cons_of_neg (by simp [hgap]), ih hlead]

theorem value_replicate_append (k : Nat) (ds : List Char) :
    value (List.replicate k '0' ++ ds) = value ds := by
  induction k with
  | zero => rfl
  | succ k ih => rw [List.replicate_succ, List.cons_append, value_zero_cons, ih]

/-- Zeros and underscores behind a zero, the last of them no underscore. -/
theorem isDigitText_zeros {lead : List Char} (hlead : ∀ c ∈ lead, isFiller c = true)
    (hlast : lead.getLast? ≠ some '_') : IsDigitText ('0' :: lead) := by
  refine ⟨?_, ⟨'0', rfl, rfl⟩, '0', ?_, rfl⟩
  · exact List.forall_mem_cons.mpr ⟨.inl rfl, fun c hc => isDigit_or_of_isFiller (hlead c hc)⟩
  · rw [List.getLast?_cons]
    cases hend : lead.getLast? with
    | none => rfl
    | some c =>
      rcases isFiller_iff.mp (hlead c (List.mem_of_getLast? hend)) with rfl | rfl
      · rfl
      · exact absurd hend hlast

/-- Zeros and underscores behind a zero, and a text of digits and underscores. -/
theorem IsDigitText.append_zeros {lead : List Char} (h : IsDigitText body)
    (hlead : ∀ c ∈ lead, isFiller c = true) : IsDigitText ('0' :: lead ++ body) := by
  obtain ⟨d, hd, hdigit⟩ := h.last
  refine ⟨?_, ⟨'0', rfl, rfl⟩, d, ?_, hdigit⟩
  · refine List.forall_mem_append.mpr ⟨?_, h.chars⟩
    exact List.forall_mem_cons.mpr ⟨.inl rfl, fun c hc => isDigit_or_of_isFiller (hlead c hc)⟩
  · rw [List.getLast?_append, Option.mem_def.mp hd]
    rfl

/-! ## What stands in front of the digits and behind them -/

/-- The signs of a number that is negative, and of one that is not. -/
inductive IsSign : Bool → List Char → Prop
  | minus : IsSign true ['-']
  | plus : IsSign false ['+']
  | none : IsSign false []

/-- Nothing, or a point and one zero or more. -/
def IsFraction (cs : List Char) : Prop := cs = [] ∨ ∃ k, cs = '.' :: List.replicate (k + 1) '0'

theorem IsDigitText.not_mem (h : IsDigitText body) (hc : Numeral.isDigit c = false) (hgap : c ≠ '_') :
    c ∉ body := by
  intro hmem
  rcases h.chars c hmem with hdigit | rfl
  · exact ne_of_isDigit hdigit hc rfl
  · exact hgap rfl

theorem IsFraction.isDigit_or (h : IsFraction fraction) (hc : c ∈ fraction) : c = '0' ∨ c = '.' := by
  rcases h with rfl | ⟨k, rfl⟩
  · cases hc
  · rcases List.mem_cons.mp hc with rfl | hc
    · exact .inr rfl
    · exact .inl (List.eq_of_mem_replicate hc)

/-! ## Numerals -/

/-- Between blanks a sign, leading zeros and the digits of a number, spaced, and a fraction. -/
def IsNumeral (n : Int) (cs : List Char) : Prop :=
  ∃ front sign body fraction back k, cs = front ++ (sign ++ (body ++ fraction)) ++ back ∧
    (∀ c ∈ front ++ back, isBlank c = true) ∧ IsSign (decide (n < 0)) sign ∧
    Spaced body (List.replicate k '0' ++ digits n.natAbs) ∧ IsFraction fraction

/-- The decimal text of an integer is a numeral of it. -/
theorem isNumeral_integer (n : Int) : IsNumeral n (integer n) := by
  have hspaced : Spaced (digits n.natAbs) (List.replicate 0 '0' ++ digits n.natAbs) :=
    spaced_of_digits (digits_ne_nil _) fun _ => isDigit_of_mem_digits
  cases n with
  | ofNat n =>
    have hsign : ¬ Int.ofNat n < 0 := Int.not_lt.mpr (Int.natCast_nonneg n)
    refine ⟨[], [], _, [], [], 0, ?_, by simp, ?_, hspaced, .inl rfl⟩
    · simp [integer]
    · rw [decide_eq_false hsign]
      exact .none
  | negSucc n =>
    refine ⟨[], ['-'], _, [], [], 0, ?_, by simp, ?_, hspaced, .inl rfl⟩
    · simp [integer]
    · rw [decide_eq_true (Int.negSucc_lt_zero n)]
      exact .minus

theorem isBlank_of_isDigit (h : isDigit c = true) : isBlank c = false := by
  simp only [isDigit, Char.isDigit, ge_iff_le, Bool.and_eq_true, decide_eq_true_eq] at h
  obtain ⟨hlow, hhigh⟩ := h
  have hlow' : 48 ≤ c.toNat := hlow
  have hhigh' : c.toNat ≤ 57 := hhigh
  simp only [isBlank, Bool.or_eq_false_iff, Bool.and_eq_false_iff, decide_eq_false_iff_not,
    beq_eq_false_iff_ne]
  omega

theorem isBlank_of_mem_numeral {negative : Bool} {sign : List Char} (hsign : IsSign negative sign)
    (hbody : IsDigitText body) (hfraction : IsFraction fraction) (h : c ∈ sign ++ (body ++ fraction)) :
    isBlank c = false := by
  rcases List.mem_append.mp h with h | h
  · cases hsign with
    | minus =>
      obtain rfl := List.mem_singleton.mp h
      rfl
    | plus =>
      obtain rfl := List.mem_singleton.mp h
      rfl
    | none => cases h
  · rcases List.mem_append.mp h with h | h
    · rcases hbody.chars c h with hdigit | rfl
      · exact isBlank_of_isDigit hdigit
      · rfl
    · rcases hfraction.isDigit_or h with rfl | rfl <;> rfl

/-! ## Plain texts and late minus signs -/

/-- A sign, digits and underscores, and a fraction; the number is that of the digits, with the sign. -/
def IsPlain (n : Int) (cs : List Char) : Prop :=
  ∃ negative sign body fraction, cs = sign ++ (body ++ fraction) ∧ IsSign negative sign ∧
    IsDigitText body ∧ IsFraction fraction ∧
    n = if negative then -(value (body.filter isDigit) : Int) else value (body.filter isDigit)

/-- The minus sign behind leading zeros, with at most one underscore and no further leading zeros after it;
the number is minus that of the digits after it. -/
def IsLate (n : Int) (cs : List Char) : Prop :=
  ∃ sign lead gap tail fraction, cs = sign ++ ('0' :: lead ++ '-' :: (gap ++ tail) ++ fraction) ∧
    IsSign false sign ∧ (∀ c ∈ lead, c = '0' ∨ c = '_') ∧ (gap = [] ∨ gap = ['_']) ∧
    IsDigitText tail ∧ (tail = ['0'] ∨ tail.head? ≠ some '0') ∧ IsFraction fraction ∧
    n = -(value (tail.filter isDigit) : Int)

/-- A plain text has a minus sign nowhere but in front. -/
theorem IsPlain.not_mem_tail (h : IsPlain n cs) : '-' ∉ cs.tail := by
  obtain ⟨negative, sign, body, fraction, rfl, hsign, hbody, hfraction, -⟩ := h
  have hrest : '-' ∉ body ++ fraction := by
    intro hmem
    rcases List.mem_append.mp hmem with hmem | hmem
    · exact hbody.not_mem rfl (by decide) hmem
    · rcases hfraction.isDigit_or hmem with heq | heq <;> exact absurd heq (by decide)
  cases hsign with
  | minus => exact hrest
  | plus => exact hrest
  | none => exact fun hmem => hrest (List.mem_of_mem_tail hmem)

theorem IsLate.mem_tail (h : IsLate n cs) : '-' ∈ cs.tail := by
  obtain ⟨sign, lead, gap, tail, fraction, rfl, hsign, -⟩ := h
  cases hsign with
  | plus => simp
  | none => simp

/-- No text has both forms, whatever the numbers. -/
theorem IsLate.not_isPlain {m : Int} (h : IsLate n cs) : ¬ IsPlain m cs := fun hplain =>
  hplain.not_mem_tail h.mem_tail

end ObjectStorage.IntegerText

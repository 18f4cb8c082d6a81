import ObjectStorage.Text.Numeral

/-!
# The number of a text of digits

* `value_cons`: what the first digit counts for.
* `value_zero_cons`: a zero in front does not count.
* `length_digits_value_le`: the number of a text of digits has no more digits than the text.
* `not_mem_digits`, `not_mem_integer`: what does not stand in the text of a number.
* `isWritable_iff`: an integer can be written exactly if it has at most `digitLimit` digits.
* `head?_digits`: no text of digits but `0` itself is written with a zero in front.
* `hexadecimal_four`: the four digits of a number below `65536`.
-/

namespace ObjectStorage.Text.Numeral

/-- The first digit of a text counts for a power of ten. -/
theorem value_cons (c : Char) (cs : List Char) :
    value (c :: cs) = Nat.pow 10 cs.length * (c.toNat - '0'.toNat) + value cs := by
  unfold value
  rw [Nat.ofDigitChars_cons, Nat.ofDigitChars_eq_ofDigitChars_zero, Nat.mul_zero, Nat.zero_add]
  rfl

theorem value_zero_cons (cs : List Char) : value ('0' :: cs) = value cs := by
  rw [value_cons, Nat.sub_self, Nat.mul_zero, Nat.zero_add]

theorem toNat_of_isDigit {c : Char} (h : isDigit c = true) : c.toNat - '0'.toNat ≤ 9 := by
  have hle : c.toNat ≤ 57 := by
    simp only [isDigit, Char.isDigit, ge_iff_le, Bool.and_eq_true, decide_eq_true_eq] at h
    exact h.2
  show c.toNat - 48 ≤ 9
  omega

theorem value_lt {cs : List Char} (h : ∀ c ∈ cs, isDigit c = true) :
    value cs < Nat.pow 10 cs.length := by
  induction cs with
  | nil => exact Nat.one_pos
  | cons c cs ih =>
    have hrest := ih fun c hc => h c (List.mem_cons_of_mem _ hc)
    have hdigit := toNat_of_isDigit (h c List.mem_cons_self)
    calc value (c :: cs)
        = Nat.pow 10 cs.length * (c.toNat - '0'.toNat) + value cs := value_cons c cs
      _ < Nat.pow 10 cs.length * (c.toNat - '0'.toNat) + Nat.pow 10 cs.length :=
        Nat.add_lt_add_left hrest _
      _ = Nat.pow 10 cs.length * (c.toNat - '0'.toNat + 1) := (Nat.mul_succ _ _).symm
      _ ≤ Nat.pow 10 cs.length * 10 := Nat.mul_le_mul_left _ (by omega)

/-- The number of a text of digits has no more digits than the text. -/
theorem length_digits_value_le {cs : List Char} (hne : cs ≠ []) (h : ∀ c ∈ cs, isDigit c = true) :
    (digits (value cs)).length ≤ cs.length :=
  (Nat.length_toDigits_le_iff (by decide) (List.length_pos_iff.mpr hne)).mpr (value_lt h)

theorem length_digits_le_iff {k n : Nat} (hk : 0 < k) : (digits n).length ≤ k ↔ n < Nat.pow 10 k :=
  Nat.length_toDigits_le_iff (by decide) hk

/-- An integer can be written exactly if it has at most `digitLimit` digits. -/
theorem isWritable_iff {n : Int} : isWritable n = true ↔ (digits n.natAbs).length ≤ digitLimit := by
  rw [length_digits_le_iff (by decide), isWritable, decide_eq_true_iff]

theorem not_mem_digits {c : Char} (h : isDigit c = false) {n : Nat} : c ∉ digits n := fun hc => by
  rw [isDigit_of_mem_digits hc] at h
  cases h

/-- A character that is neither a digit nor the sign does not stand in the text of an integer. -/
theorem not_mem_integer {c : Char} (h : isDigit c = false) (hsign : c ≠ '-') {n : Int} : c ∉ integer n := by
  cases n with
  | ofNat n => exact not_mem_digits h
  | negSucc n => exact List.not_mem_cons_of_ne_of_not_mem hsign (not_mem_digits h)

/-! ## The first digit -/

/-- Only zero is written with a zero in front. -/
theorem head?_digits {n : Nat} (h : (digits n).head? = some '0') : n = 0 := by
  induction n using Nat.strongRecOn with
  | ind n ih =>
    by_cases hsmall : n < 10
    · rw [digits, Nat.toDigits_of_lt_base hsmall] at h
      have hall : ∀ n < 10, n.digitChar = '0' → n = 0 := by decide
      exact hall n hsmall (Option.some.inj h)
    · -- the first digit is that of a tenth
      have hne : digits (n / 10) ≠ [] := digits_ne_nil _
      obtain ⟨c, cs, hcs⟩ := List.exists_cons_of_ne_nil hne
      have hfirst : (digits n).head? = some c := by
        rw [digits, Nat.toDigits_of_base_le (by decide) (Nat.le_of_not_lt hsmall), ← digits, hcs]
        rfl
      have htenth := ih (n / 10) (by omega) (by rw [hcs]; exact hfirst.symm.trans h)
      omega

/-! ## Hexadecimal digits -/

theorem hexadecimal_one {n : Nat} (h : n < 16) : hexadecimal 1 n = [n.digitChar] := by
  rw [hexadecimal, Nat.toDigits_of_lt_base h]
  rfl

/-- With at least two places, the last digit stands for the remainder. -/
theorem hexadecimal_succ {width : Nat} (hw : 0 < width) (n : Nat) :
    hexadecimal (width + 1) n = hexadecimal width (n / 16) ++ [(n % 16).digitChar] := by
  unfold hexadecimal
  by_cases hsmall : n < 16
  · have hzero : n / 16 = 0 := Nat.div_eq_of_lt hsmall
    have hfill : List.replicate (width - 1) '0' ++ ['0'] = List.replicate width '0' := by
      rw [← List.replicate_succ', Nat.sub_add_cancel hw]
    rw [hzero, Nat.toDigits_of_lt_base hsmall, Nat.toDigits_of_lt_base (by decide),
      Nat.mod_eq_of_lt hsmall]
    show _ = List.replicate (width - 1) '0' ++ ['0'] ++ [n.digitChar]
    rw [hfill]
    rfl
  · rw [Nat.toDigits_of_base_le (by decide) (Nat.le_of_not_lt hsmall)]
    simp [Nat.add_sub_add_right]

/-- The four digits of a number below `65536`. -/
theorem hexadecimal_four {n : Nat} (h : n < 65536) :
    hexadecimal 4 n = [(n / 4096).digitChar, (n / 256 % 16).digitChar, (n / 16 % 16).digitChar,
      (n % 16).digitChar] := by
  have hsecond : n / 16 / 16 = n / 256 := Nat.div_div_eq_div_mul n 16 16
  have hfirst : n / 256 / 16 = n / 4096 := Nat.div_div_eq_div_mul n 256 16
  have hhigh : n / 4096 < 16 := by omega
  rw [hexadecimal_succ (by decide), hexadecimal_succ (by decide), hexadecimal_succ (by decide),
    hsecond, hfirst, hexadecimal_one hhigh]
  rfl

end ObjectStorage.Text.Numeral

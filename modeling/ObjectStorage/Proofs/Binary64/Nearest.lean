import Mathlib.Algebra.Order.Ring.Abs
import Mathlib.Algebra.Ring.Parity
import Mathlib.Tactic.FieldSimp
import ObjectStorage.Proofs.Binary64.Range

/-!
# The nearest binary64 number

* `Normal`: the numbers `m * 2 ^ e` with `2 ^ 52 ≤ m < 2 ^ 53`, for any exponent.
* `Normal.Nearest`: no such number is closer to `x`, and where another one is as close, the significand is
  even.
* `Nearest.value_le_value`, `Nearest.value_eq`: so nearest numbers grow with `x`, and where `x` is such a
  number it is its own nearest one.
* `abs_roundHalfEven_sub_le_abs`, `even_roundHalfEven`: the same two facts for rounding to a whole number.
* `exists_nearest`: below `overflow`, `nearest?` answers a nearest number.
-/

namespace ObjectStorage.Binary64

variable {n d : Nat}

/-! ## Numbers -/

/-- A number `m * 2 ^ e` whose significand `m` has 53 binary digits. -/
structure Normal where
  significand : Nat
  exponent : Int
  lower : 2 ^ 52 ≤ significand
  upper : significand < 2 ^ 53

namespace Normal

/-- The number itself. -/
def value (a : Normal) : ℚ := a.significand * 2 ^ a.exponent

/-- No number is closer to `x` than `a`, and if another one is as close, the significand of `a` is even. -/
structure Nearest (a : Normal) (x : ℚ) : Prop where
  near : ∀ b : Normal, |a.value - x| ≤ |b.value - x|
  even : ∀ b : Normal, b.value ≠ a.value → |a.value - x| = |b.value - x| → Even a.significand

theorem value_pos (a : Normal) : 0 < a.value := by
  have hpos : 0 < a.significand := lt_of_lt_of_le (by decide) a.lower
  unfold value
  positivity

/-- Nearest numbers grow with what they are nearest to. -/
theorem Nearest.value_le_value {a b : Normal} {x y : ℚ} (ha : a.Nearest x) (hb : b.Nearest y)
    (hxy : x < y) : a.value ≤ b.value := by
  by_contra hlt
  rw [not_le] at hlt
  -- `x` is no less than the middle between the two numbers, and `y` is no more
  have hx : b.value + a.value ≤ 2 * x := by
    have hsq := sq_le_sq.mpr (ha.near b)
    nlinarith
  have hy : 2 * y ≤ b.value + a.value := by
    have hsq := sq_le_sq.mpr (hb.near a)
    nlinarith
  linarith

/-- Where `x` is a number, it is its own nearest one. -/
theorem Nearest.value_eq {a b : Normal} {x : ℚ} (ha : a.Nearest x) (hb : b.value = x) :
    a.value = x := by
  have hnear := ha.near b
  rw [hb, sub_self, abs_zero] at hnear
  exact sub_eq_zero.mp (abs_nonpos_iff.mp hnear)

end Normal

/-! ## Rounding to a whole number -/

theorem abs_roundHalfEven_sub_le (n : Nat) (hd : 0 < d) :
    |(roundHalfEven n d : ℚ) - n / d| ≤ 1 / 2 := by
  have hpos : (0 : ℚ) < d := by exact_mod_cast hd
  obtain ⟨hlow, hhigh⟩ := roundHalfEven_near n hd
  have hlow' : (2 : ℚ) * n ≤ 2 * (roundHalfEven n d * d) + d := by exact_mod_cast hlow
  have hhigh' : (2 : ℚ) * (roundHalfEven n d * d) ≤ 2 * n + d := by exact_mod_cast hhigh
  have hdist : (roundHalfEven n d : ℚ) - n / d = (roundHalfEven n d * d - n) / d := by
    field_simp
  rw [hdist, abs_le, le_div_iff₀ hpos, div_le_iff₀ hpos]
  constructor <;> linarith

/-- Two whole numbers that differ are one apart, or more. -/
theorem one_le_abs_sub {k m : Int} (h : k ≠ m) : (1 : ℚ) ≤ |(k : ℚ) - m| := by
  exact_mod_cast Int.one_le_abs (sub_ne_zero.mpr h)

/-- No whole number is closer to a quotient than the rounded one. -/
theorem abs_roundHalfEven_sub_le_abs (n : Nat) (hd : 0 < d) (k : Int) :
    |(roundHalfEven n d : ℚ) - n / d| ≤ |(k : ℚ) - n / d| := by
  by_cases hk : k = roundHalfEven n d
  · rw [hk, Int.cast_natCast]
  · have hapart : (1 : ℚ) ≤ |(k : ℚ) - (roundHalfEven n d : Int)| := one_le_abs_sub hk
    have htriangle := abs_sub_le (k : ℚ) (n / d) (roundHalfEven n d : Int)
    have hhalf := abs_roundHalfEven_sub_le n hd
    rw [Int.cast_natCast, abs_sub_comm (n / d : ℚ)] at htriangle
    rw [Int.cast_natCast] at hapart
    linarith

/-- In the middle between two whole numbers, the even one is taken. -/
theorem even_roundHalfEven_of_middle {m : Nat} (hd : 0 < d) (h : (2 * m + 1) * d = 2 * n) :
    Even (roundHalfEven n d) := by
  have hlow : m ≤ roundHalfEven n d := le_roundHalfEven hd (by nlinarith)
  have hhigh : roundHalfEven n d ≤ m + 1 := roundHalfEven_le hd (by nlinarith)
  have hstep : m < roundHalfEven n d ↔ m % 2 = 1 := by
    rw [lt_roundHalfEven_iff hd]
    omega
  rw [Nat.even_iff]
  omega

/-- Where another whole number is as close, the rounded one is even. -/
theorem even_roundHalfEven (hd : 0 < d) {k : Int} (hk : k ≠ roundHalfEven n d)
    (h : |(roundHalfEven n d : ℚ) - n / d| = |(k : ℚ) - n / d|) : Even (roundHalfEven n d) := by
  have hpos : (0 : ℚ) < d := by exact_mod_cast hd
  obtain ⟨m, hm⟩ : ∃ m, roundHalfEven n d = m := ⟨_, rfl⟩
  rw [hm] at hk h
  -- both are half a unit away
  have hhalf : |(m : ℚ) - n / d| = 1 / 2 := by
    have hapart : (1 : ℚ) ≤ |(k : ℚ) - (m : Int)| := one_le_abs_sub hk
    have htriangle := abs_sub_le (k : ℚ) (n / d) (m : Int)
    have hle := abs_roundHalfEven_sub_le n hd
    rw [hm] at hle
    rw [Int.cast_natCast, abs_sub_comm (n / d : ℚ)] at htriangle
    rw [Int.cast_natCast] at hapart
    linarith
  rcases (abs_eq (by norm_num)).mp hhalf with habove | hbelow
  · -- the quotient is in the middle between `m - 1` and `m`
    have hquotient : 2 * (m : ℚ) * d = 2 * n + d := by
      field_simp at habove
      linarith
    have hmiddle : 2 * m * d = 2 * n + d := by exact_mod_cast hquotient
    cases m with
    | zero => omega
    | succ m => exact even_roundHalfEven_of_middle (m := m) hd (by linarith)
  · -- the quotient is in the middle between `m` and `m + 1`
    have hquotient : (2 * (m : ℚ) + 1) * d = 2 * n := by
      field_simp at hbelow
      linarith
    exact even_roundHalfEven_of_middle hd (by exact_mod_cast hquotient)

/-! ## The significand and the exponent -/

/-- A quotient in units of its exponent is the quotient that is rounded. -/
theorem scaled_div (n d : Nat) (e : Int) :
    ((n <<< (-e).toNat : Nat) : ℚ) / (d <<< e.toNat : Nat) = n / d / 2 ^ e := by
  have hpos : (0 : ℚ) < 2 ^ (-e).toNat := by positivity
  rw [Nat.shiftLeft_eq, Nat.shiftLeft_eq]
  push_cast
  rw [← two_zpow_mul e, ← mul_assoc, mul_div_mul_right _ _ hpos.ne', div_div]

/-- At the exponent of a number or below, the number is a whole multiple of the unit. -/
theorem Normal.exists_value_eq (b : Normal) {e : Int} (h : e ≤ b.exponent) :
    ∃ k : Int, b.value = k * 2 ^ e := by
  refine ⟨b.significand * 2 ^ (b.exponent - e).toNat, ?_⟩
  have hsplit : (2 : ℚ) ^ b.exponent = 2 ^ (b.exponent - e).toNat * 2 ^ e := by
    rw [← zpow_natCast, ← zpow_add₀ (by norm_num)]
    congr 1
    omega
  rw [Normal.value, hsplit]
  push_cast
  ring

/-- Above the exponent of a number, the number is less than the least significand. -/
theorem Normal.value_lt (b : Normal) {e : Int} (h : b.exponent < e) :
    b.value < 2 ^ 52 * 2 ^ e := by
  have hupper : (b.significand : ℚ) < 2 ^ 53 := by exact_mod_cast b.upper
  calc b.value < 2 ^ 53 * 2 ^ b.exponent := by
        unfold Normal.value
        gcongr
    _ = 2 ^ 52 * 2 ^ (b.exponent + 1) := by
        rw [zpow_add_one₀ (by norm_num)]
        ring
    _ ≤ 2 ^ 52 * 2 ^ e := by
        gcongr
        · norm_num
        · omega

/-- The number with the significand and the exponent of a quotient; a significand that was rounded up to
`2 ^ 53` belongs to the next exponent. -/
def rounded (hn : 0 < n) (hd : 0 < d) : Normal :=
  if h : significand n d (exponent n d) = 2 ^ 53 then
    ⟨2 ^ 52, exponent n d + 1, Nat.le_refl _, by decide⟩
  else
    ⟨significand n d (exponent n d), exponent n d, (significand_bounds hn hd).1,
      Nat.lt_of_le_of_ne (significand_bounds hn hd).2 h⟩

theorem value_rounded (hn : 0 < n) (hd : 0 < d) :
    (rounded hn hd).value = significand n d (exponent n d) * 2 ^ exponent n d := by
  unfold rounded Normal.value
  split_ifs with h
  · rw [h, zpow_add_one₀ (by norm_num)]
    push_cast
    ring
  · rfl

theorem even_significand_rounded (hn : 0 < n) (hd : 0 < d)
    (h : Even (significand n d (exponent n d))) : Even (rounded hn hd).significand := by
  unfold rounded
  split_ifs
  · show Even (2 ^ 52)
    decide
  · exact h

/-- What is computed for a quotient within the range. -/
theorem nearest?_eq_some (hn : 0 < n) (hd : 0 < d) {r : ℚ} (h : nearest? n d = some r) :
    r = (rounded hn hd).value := by
  unfold nearest? at h
  dsimp only at h
  split at h
  · cases h
  · rw [← Option.some.inj h, value_rounded, Rat.mkRat_eq_div, Nat.shiftLeft_eq, Nat.shiftLeft_eq, one_mul]
    push_cast
    rw [← two_zpow_mul, mul_div_assoc, mul_div_cancel_right₀ _ (by positivity)]

/-- Distances are measured in units of an exponent. -/
theorem abs_units_sub (k x : ℚ) (e : Int) : |k * 2 ^ e - x| = |k - x / 2 ^ e| * 2 ^ e := by
  have hunit : (0 : ℚ) < 2 ^ e := by positivity
  rw [← abs_of_pos hunit, ← abs_mul, abs_of_pos hunit, sub_mul, div_mul_cancel₀ _ hunit.ne']

/-- No whole number of units is closer to the quotient than the rounded number. -/
theorem near_of_units (hn : 0 < n) (hd : 0 < d) (k : Int) :
    |(rounded hn hd).value - n / d| ≤ |(k : ℚ) * 2 ^ exponent n d - n / d| := by
  have hscaled : 0 < d <<< (exponent n d).toNat := Nat.shiftLeft_pos_iff.mpr hd
  have hle := abs_roundHalfEven_sub_le_abs (n <<< (-exponent n d).toNat) hscaled k
  rw [scaled_div] at hle
  rw [value_rounded, abs_units_sub, abs_units_sub]
  exact mul_le_mul_of_nonneg_right hle (by positivity)

/-- Where another whole number of units is as close, the significand is even. -/
theorem even_of_units (hn : 0 < n) (hd : 0 < d) {k : Int}
    (hne : (k : ℚ) * 2 ^ exponent n d ≠ (rounded hn hd).value)
    (h : |(rounded hn hd).value - n / d| = |(k : ℚ) * 2 ^ exponent n d - n / d|) :
    Even (rounded hn hd).significand := by
  have hscaled : 0 < d <<< (exponent n d).toNat := Nat.shiftLeft_pos_iff.mpr hd
  rw [value_rounded] at hne
  rw [value_rounded, abs_units_sub, abs_units_sub] at h
  have hunit : (2 : ℚ) ^ exponent n d ≠ 0 := by positivity
  have hsame := mul_right_cancel₀ hunit h
  rw [← scaled_div] at hsame
  have hk : k ≠ significand n d (exponent n d) := by
    rintro rfl
    exact hne (by rw [Int.cast_natCast])
  exact even_significand_rounded hn hd (even_roundHalfEven hscaled hk hsame)

/-- A number of a smaller exponent is farther away: it is less than `2 ^ 52` units, and the quotient is not. -/
theorem near_of_exponent_lt (hn : 0 < n) (hd : 0 < d) {b : Normal} (hb : b.exponent < exponent n d) :
    |(rounded hn hd).value - n / d| < |b.value - n / d| := by
  have hlow : (2 : ℚ) ^ 52 * 2 ^ exponent n d ≤ n / d := by
    have hspec := (exponent_spec hn hd).1
    rw [zpow_add₀ (by norm_num), ← le_div_iff₀ (by exact_mod_cast hd)] at hspec
    rw [mul_comm]
    exact_mod_cast hspec
  have hleast := near_of_units hn hd (2 ^ 52)
  rw [Int.cast_pow, Int.cast_ofNat, abs_of_nonpos (sub_nonpos.mpr hlow)] at hleast
  have hless := b.value_lt hb
  have hbelow : b.value - n / d < 0 := by linarith
  rw [abs_of_neg hbelow]
  linarith

/-- The rounded number is nearest to the quotient. -/
theorem nearest_rounded (hn : 0 < n) (hd : 0 < d) : (rounded hn hd).Nearest (n / d) := by
  constructor
  · intro b
    rcases lt_or_ge b.exponent (exponent n d) with hb | hb
    · exact (near_of_exponent_lt hn hd hb).le
    · obtain ⟨k, hk⟩ := b.exists_value_eq hb
      rw [hk]
      exact near_of_units hn hd k
  · intro b hne heq
    rcases lt_or_ge b.exponent (exponent n d) with hb | hb
    · exact absurd heq (near_of_exponent_lt hn hd hb).ne
    · obtain ⟨k, hk⟩ := b.exists_value_eq hb
      rw [hk] at hne heq
      exact even_of_units hn hd hne heq

/-- Below `overflow`, the answer is a number nearest to the quotient. -/
theorem exists_nearest (hn : 0 < n) (hd : 0 < d) (h : n < overflow * d) :
    ∃ a : Normal, nearest? n d = some a.value ∧ a.Nearest (n / d) := by
  cases hr : nearest? n d with
  | none => exact absurd ((nearest?_eq_none_iff hn hd).mp hr) h.not_ge
  | some r => exact ⟨rounded hn hd, congrArg some (nearest?_eq_some hn hd hr), nearest_rounded hn hd⟩

end ObjectStorage.Binary64

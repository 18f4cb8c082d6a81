import Mathlib.Algebra.Order.Field.Power
import Mathlib.Data.Rat.Cast.Order
import Mathlib.Tactic.Linarith
import Mathlib.Tactic.NormNum
import Mathlib.Tactic.Ring
import ObjectStorage.Binary64

/-!
# Which quotients have a binary64 number

* `lt_roundHalfEven_iff`: where rounding steps from one whole number to the next.
* `reaches_iff`, `exponent_spec`: the exponent brings a quotient between `2 ^ 52` and `2 ^ 53`.
* `significand_bounds`: so the significand lies between these two.
* `overflow`: `2 ^ 1024 - 2 ^ 970`, half a unit in the last place below `2 ^ 1024`.
* `lt_of_exponent_lt`, `significand_971_iff`, `le_of_lt_exponent`: below, at and beyond the exponent of the
  largest numbers.
* `nearest?_eq_none_iff`: rounding leaves the range from `overflow` on.
-/

namespace ObjectStorage.Binary64

variable {n d : Nat}

/-! ## Rounding to a whole number -/

/-- Rounding exceeds `m` above `m + 1/2`, and at `m + 1/2` itself if `m` is odd. -/
theorem lt_roundHalfEven_iff {m : Nat} (hd : 0 < d) :
    m < roundHalfEven n d ↔ (2 * m + 1) * d < 2 * n ∨ ((2 * m + 1) * d = 2 * n ∧ m % 2 = 1) := by
  have hdiv : d * (n / d) + n % d = n := Nat.div_add_mod n d
  have hmod : n % d < d := Nat.mod_lt n hd
  unfold roundHalfEven
  dsimp only
  generalize n / d = q at *
  generalize n % d = r at *
  subst hdiv
  rcases lt_trichotomy m q with hlt | rfl | hgt
  · -- the whole part is larger already
    have hstep : (2 * m + 1) * d < 2 * (d * q + r) := by nlinarith
    refine iff_of_true ?_ (.inl hstep)
    split_ifs <;> omega
  · -- the fraction decides
    have hlt : (2 * m + 1) * d < 2 * (d * m + r) ↔ d < 2 * r := by
      rw [show (2 * m + 1) * d = 2 * (d * m) + d by ring]
      omega
    have heq : (2 * m + 1) * d = 2 * (d * m + r) ↔ d = 2 * r := by
      rw [show (2 * m + 1) * d = 2 * (d * m) + d by ring]
      omega
    rw [hlt, heq]
    split_ifs <;> omega
  · -- the next whole number is no larger
    have hstep : 2 * (d * q + r) < (2 * m + 1) * d := by nlinarith
    refine iff_of_false ?_ (by omega)
    split_ifs <;> omega

/-- Above an odd number, a half is rounded up. -/
theorem lt_roundHalfEven_iff_of_odd {m : Nat} (hd : 0 < d) (hm : m % 2 = 1) :
    m < roundHalfEven n d ↔ (2 * m + 1) * d ≤ 2 * n := by
  rw [lt_roundHalfEven_iff hd, and_iff_left hm, Nat.le_iff_lt_or_eq]

theorem le_roundHalfEven {m : Nat} (hd : 0 < d) (h : m * d ≤ n) : m ≤ roundHalfEven n d := by
  cases m with
  | zero => exact Nat.zero_le _
  | succ m =>
    refine (lt_roundHalfEven_iff hd).mpr (.inl ?_)
    nlinarith

theorem roundHalfEven_le {m : Nat} (hd : 0 < d) (h : n ≤ m * d) : roundHalfEven n d ≤ m := by
  refine Nat.le_of_not_lt fun hlt => ?_
  rcases (lt_roundHalfEven_iff hd).mp hlt with hstep | ⟨hstep, -⟩ <;> nlinarith

/-! ## Scaling -/

theorem two_zpow_mul (k : Int) : (2 : ℚ) ^ k * 2 ^ (-k).toNat = 2 ^ k.toNat := by
  rw [← zpow_natCast, ← zpow_natCast, ← zpow_add₀ (by norm_num)]
  congr 1
  omega

theorem reaches_iff {k : Int} : reaches n d k = true ↔ (2 : ℚ) ^ k * d ≤ n := by
  have hpos : (0 : ℚ) < 2 ^ (-k).toNat := by positivity
  have hcast : d * 2 ^ k.toNat ≤ n * 2 ^ (-k).toNat ↔
      (d : ℚ) * 2 ^ k.toNat ≤ n * 2 ^ (-k).toNat := by
    exact_mod_cast Iff.rfl
  have hscale : (2 : ℚ) ^ k * d * 2 ^ (-k).toNat = d * 2 ^ k.toNat := by
    rw [mul_right_comm, two_zpow_mul, mul_comm]
  rw [reaches, decide_eq_true_eq, Nat.shiftLeft_eq, Nat.shiftLeft_eq, hcast, ← hscale]
  exact mul_le_mul_iff_of_pos_right hpos

/-- The exponent brings a quotient between `2 ^ 52` and `2 ^ 53`. -/
theorem exponent_spec (hn : 0 < n) (hd : 0 < d) :
    (2 : ℚ) ^ (exponent n d + 52) * d ≤ n ∧ (n : ℚ) < 2 ^ (exponent n d + 53) * d := by
  have hn_low : (2 : ℚ) ^ (n.log2 : Int) ≤ n := by
    exact_mod_cast Nat.log2_self_le hn.ne'
  have hn_high : (n : ℚ) < 2 ^ (n.log2 + 1 : Int) := by
    exact_mod_cast Nat.lt_log2_self
  have hd_low : (2 : ℚ) ^ (d.log2 : Int) ≤ d := by
    exact_mod_cast Nat.log2_self_le hd.ne'
  have hd_high : (d : ℚ) < 2 ^ (d.log2 + 1 : Int) := by
    exact_mod_cast Nat.lt_log2_self
  unfold exponent
  dsimp only
  split_ifs with hreach
  · -- the quotient reaches the difference of the logarithms, and stays below twice that
    refine ⟨by simpa using reaches_iff.mp hreach, ?_⟩
    calc (n : ℚ) < 2 ^ (n.log2 + 1 : Int) := hn_high
      _ = 2 ^ ((n.log2 : Int) - d.log2 - 52 + 53) * 2 ^ (d.log2 : Int) := by
        rw [← zpow_add₀ (by norm_num)]
        congr 1
        omega
      _ ≤ 2 ^ ((n.log2 : Int) - d.log2 - 52 + 53) * d := by gcongr
  · -- it does not, and is more than half of that
    have hnot : (n : ℚ) < 2 ^ ((n.log2 : Int) - d.log2) * d := not_le.mp fun h => hreach (reaches_iff.mpr h)
    refine ⟨?_, by simpa using hnot⟩
    calc (2 : ℚ) ^ ((n.log2 : Int) - d.log2 - 53 + 52) * d
        ≤ 2 ^ ((n.log2 : Int) - d.log2 - 53 + 52) * 2 ^ (d.log2 + 1 : Int) := by gcongr
      _ = 2 ^ (n.log2 : Int) := by
        rw [← zpow_add₀ (by norm_num)]
        congr 1
        omega
      _ ≤ n := hn_low

/-- Scaled by the exponent, a quotient is between `2 ^ 52` and `2 ^ 53`. -/
theorem scaled_spec (hn : 0 < n) (hd : 0 < d) {e : Int} (he : exponent n d = e) :
    2 ^ 52 * (d <<< e.toNat) ≤ n <<< (-e).toNat ∧ n <<< (-e).toNat < 2 ^ 53 * (d <<< e.toNat) := by
  obtain ⟨hlow, hhigh⟩ := exponent_spec hn hd
  rw [he] at hlow hhigh
  have hpos : (0 : ℚ) < 2 ^ (-e).toNat := by positivity
  have hscale (j : Nat) : (2 : ℚ) ^ (e + j) * d * 2 ^ (-e).toNat = 2 ^ j * (d * 2 ^ e.toNat) := by
    rw [zpow_add₀ (by norm_num), ← two_zpow_mul e, zpow_natCast]
    ring
  have hlow' := mul_le_mul_of_nonneg_right hlow hpos.le
  have hhigh' := mul_lt_mul_of_pos_right hhigh hpos
  rw [show (52 : Int) = (52 : Nat) from rfl, hscale] at hlow'
  rw [show (53 : Int) = (53 : Nat) from rfl, hscale] at hhigh'
  rw [Nat.shiftLeft_eq, Nat.shiftLeft_eq]
  exact ⟨by exact_mod_cast hlow', by exact_mod_cast hhigh'⟩

/-! ## The range -/

theorem significand_bounds (hn : 0 < n) (hd : 0 < d) :
    2 ^ 52 ≤ significand n d (exponent n d) ∧ significand n d (exponent n d) ≤ 2 ^ 53 := by
  obtain ⟨hlow, hhigh⟩ := scaled_spec hn hd rfl
  have hscaled : 0 < d <<< (exponent n d).toNat := Nat.shiftLeft_pos_iff.mpr hd
  exact ⟨le_roundHalfEven hscaled hlow, roundHalfEven_le hscaled hhigh.le⟩

/-- The least quotient that is rounded out of the range. -/
@[irreducible] def overflow : Nat := 2 ^ 1024 - 2 ^ 970

theorem overflow_pos : 0 < overflow := by
  unfold overflow
  refine Nat.sub_pos_of_lt ?_
  gcongr <;> decide

theorem nearest?_eq_none_iff_significand :
    nearest? n d = none ↔
      2 ^ (1024 + (-exponent n d).toNat) ≤
        significand n d (exponent n d) * 2 ^ (exponent n d).toNat := by
  unfold nearest?
  dsimp only
  rw [Nat.shiftLeft_eq, Nat.shiftLeft_eq, one_mul]
  split_ifs with h
  · simp [h]
  · simp [h]

/-- Half a unit in the last place of the largest numbers. -/
@[irreducible] def halfUnit : Nat := 2 ^ 970

theorem halfUnit_pos : 0 < halfUnit := by
  unfold halfUnit
  positivity

theorem two_pow_971 : 2 ^ 971 = 2 * halfUnit := by
  unfold halfUnit
  rw [← pow_succ']

theorem two_pow_1024 : 2 ^ 1024 = 2 ^ 54 * halfUnit := by
  unfold halfUnit
  rw [← pow_add]

theorem overflow_eq : overflow = (2 ^ 54 - 1) * halfUnit := by
  unfold overflow
  rw [two_pow_1024, Nat.sub_one_mul]
  unfold halfUnit
  rfl

theorem two_pow_le_halfUnit {k : Nat} (h : k ≤ 970) : 2 ^ k ≤ halfUnit := by
  unfold halfUnit
  gcongr
  decide

theorem le_two_pow {k : Nat} (h : 972 ≤ k) : 4 * halfUnit ≤ 2 ^ k := by
  calc 4 * halfUnit = 2 ^ 972 := by
        unfold halfUnit
        rw [show 4 = 2 ^ 2 from rfl, ← pow_add]
    _ ≤ 2 ^ k := by
        gcongr
        decide

variable {e : Int}

/-- At a small exponent a quotient stays within the range, rounded or not. -/
theorem lt_of_exponent_lt (hn : 0 < n) (hd : 0 < d) (he : exponent n d = e) (hsmall : e < 971) :
    significand n d e * 2 ^ e.toNat < 2 ^ (1024 + (-e).toNat) ∧ n < overflow * d := by
  obtain ⟨-, hmax⟩ := significand_bounds hn hd
  obtain ⟨-, hhigh⟩ := scaled_spec hn hd he
  rw [he] at hmax
  rw [Nat.shiftLeft_eq, Nat.shiftLeft_eq] at hhigh
  have hpow : 2 ^ e.toNat ≤ halfUnit :=
    two_pow_le_halfUnit (Int.toNat_le.mpr (Int.le_of_lt_add_one hsmall))
  have hone : 1 ≤ 2 ^ (-e).toNat := Nat.one_le_two_pow
  rw [pow_add, two_pow_1024, overflow_eq]
  constructor
  · calc significand n d e * 2 ^ e.toNat
        ≤ 2 ^ 53 * halfUnit := Nat.mul_le_mul hmax hpow
      _ < 2 ^ 54 * halfUnit := Nat.mul_lt_mul_of_pos_right (by decide) halfUnit_pos
      _ ≤ 2 ^ 54 * halfUnit * 2 ^ (-e).toNat := Nat.le_mul_of_pos_right _ hone
  · calc n ≤ n * 2 ^ (-e).toNat := Nat.le_mul_of_pos_right n hone
      _ < 2 ^ 53 * (d * 2 ^ e.toNat) := hhigh
      _ ≤ 2 ^ 53 * (d * halfUnit) := Nat.mul_le_mul_left _ (Nat.mul_le_mul_left d hpow)
      _ = 2 ^ 53 * halfUnit * d := by ring
      _ ≤ (2 ^ 54 - 1) * halfUnit * d :=
        Nat.mul_le_mul_right d (Nat.mul_le_mul_right _ (by decide))

/-- At the exponent of the largest numbers the significand decides: it is rounded up to `2 ^ 53` from
half a unit below on. -/
theorem significand_971_iff (hd : 0 < d) :
    2 ^ 1024 ≤ significand n d 971 * 2 ^ 971 ↔ overflow * d ≤ n := by
  have hround : significand n d 971 = roundHalfEven n (d * (2 * halfUnit)) := by
    rw [← two_pow_971, ← Nat.shiftLeft_eq]
    rfl
  have hunit : 0 < 2 * halfUnit := Nat.mul_pos (by decide) halfUnit_pos
  calc 2 ^ 1024 ≤ significand n d 971 * 2 ^ 971
      ↔ 2 ^ 53 * (2 * halfUnit) ≤ significand n d 971 * (2 * halfUnit) := by
        rw [two_pow_1024, two_pow_971, show 2 ^ 54 * halfUnit = 2 ^ 53 * (2 * halfUnit) by ring]
    _ ↔ 2 ^ 53 - 1 < significand n d 971 := by
        rw [Nat.mul_le_mul_right_iff hunit]
        omega
    _ ↔ 2 * ((2 ^ 54 - 1) * halfUnit * d) ≤ 2 * n := by
        rw [hround, lt_roundHalfEven_iff_of_odd (Nat.mul_pos hd hunit) (by decide),
          show (2 * (2 ^ 53 - 1) + 1) * (d * (2 * halfUnit)) = 2 * ((2 ^ 54 - 1) * halfUnit * d) by ring]
    _ ↔ overflow * d ≤ n := by
        rw [Nat.mul_le_mul_left_iff (by decide), overflow_eq]

/-- At a larger exponent a quotient is out of the range, rounded or not. -/
theorem le_of_lt_exponent (hn : 0 < n) (hd : 0 < d) (he : exponent n d = e) (hlarge : 971 < e) :
    2 ^ (1024 + (-e).toNat) ≤ significand n d e * 2 ^ e.toNat ∧ overflow * d ≤ n := by
  obtain ⟨hmin, -⟩ := significand_bounds hn hd
  obtain ⟨hlow, -⟩ := scaled_spec hn hd he
  rw [he] at hmin
  rw [Nat.shiftLeft_eq, Nat.shiftLeft_eq] at hlow
  have hpow : 4 * halfUnit ≤ 2 ^ e.toNat := le_two_pow (by omega)
  have hneg : (-e).toNat = 0 := by omega
  rw [hneg, pow_zero, mul_one] at hlow
  rw [hneg, Nat.add_zero, two_pow_1024, overflow_eq]
  constructor
  · calc 2 ^ 54 * halfUnit = 2 ^ 52 * (4 * halfUnit) := by ring
      _ ≤ significand n d e * 2 ^ e.toNat := Nat.mul_le_mul hmin hpow
  · calc (2 ^ 54 - 1) * halfUnit * d
        ≤ 2 ^ 54 * halfUnit * d := Nat.mul_le_mul_right d (Nat.mul_le_mul_right _ (by decide))
      _ = 2 ^ 52 * (d * (4 * halfUnit)) := by ring
      _ ≤ 2 ^ 52 * (d * 2 ^ e.toNat) := Nat.mul_le_mul_left _ (Nat.mul_le_mul_left d hpow)
      _ ≤ n := hlow

/-- Rounding leaves the range from `overflow` on. -/
theorem nearest?_eq_none_iff (hn : 0 < n) (hd : 0 < d) :
    nearest? n d = none ↔ overflow * d ≤ n := by
  rw [nearest?_eq_none_iff_significand]
  rcases lt_trichotomy (exponent n d) 971 with hsmall | hexp | hlarge
  · obtain ⟨hrounded, hquotient⟩ := lt_of_exponent_lt hn hd rfl hsmall
    exact iff_of_false hrounded.not_ge hquotient.not_ge
  · rw [hexp, show (971 : Int).toNat = 971 from rfl, show (-971 : Int).toNat = 0 from rfl, Nat.add_zero]
    exact significand_971_iff hd
  · obtain ⟨hrounded, hquotient⟩ := le_of_lt_exponent hn hd rfl hlarge
    exact iff_of_true hrounded hquotient

end ObjectStorage.Binary64

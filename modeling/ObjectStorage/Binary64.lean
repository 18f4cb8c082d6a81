/-!
# The binary64 number nearest to a quotient

A binary64 number in the normal range is `m * 2 ^ e` with `2 ^ 52 ≤ m < 2 ^ 53`.

* `roundHalfEven n d`: the natural number nearest to `n / d`, an exact half going to the even neighbour.
* `exponent n d`: the `e` with `2 ^ 52 ≤ n / (d * 2 ^ e) < 2 ^ 53`.
* `nearest? n d`: the nearest binary64 number as an exact fraction, `none` where rounding reaches
  `2 ^ 1024` and so leaves the range.
* `roundHalfEven_near`: the rounded number is at most one half away from the quotient.
-/

namespace ObjectStorage.Binary64

/-! ## Rounding to a whole number -/

/-- The natural number nearest to `n / d`, an exact half going to the even neighbour. -/
def roundHalfEven (n d : Nat) : Nat :=
  let q := n / d
  let twice := 2 * (n % d)
  if twice < d then q
  else if d < twice then q + 1
  else if q % 2 = 0 then q
  else q + 1

/-- The rounded number is at most one half away from the quotient. -/
theorem roundHalfEven_near (n : Nat) {d : Nat} (hd : 0 < d) :
    2 * n ≤ 2 * (roundHalfEven n d * d) + d ∧ 2 * (roundHalfEven n d * d) ≤ 2 * n + d := by
  have hdiv : d * (n / d) + n % d = n := Nat.div_add_mod n d
  have hmod : n % d < d := Nat.mod_lt n hd
  have hq : n / d * d = d * (n / d) := Nat.mul_comm _ _
  have hq1 : (n / d + 1) * d = d * (n / d) + d := by rw [Nat.add_mul, Nat.one_mul, hq]
  unfold roundHalfEven
  dsimp only
  split
  · rw [hq]; omega
  · split
    · rw [hq1]; omega
    · split
      · rw [hq]; omega
      · rw [hq1]; omega

/-! ## Scaling -/

/-- Whether `2 ^ k ≤ n / d`. -/
def reaches (n d : Nat) (k : Int) : Bool :=
  d <<< k.toNat ≤ n <<< (-k).toNat

/-- The `e` with `2 ^ 52 ≤ n / (d * 2 ^ e) < 2 ^ 53`, for positive `n` and `d`. -/
def exponent (n d : Nat) : Int :=
  let k : Int := n.log2 - d.log2
  if reaches n d k then k - 52 else k - 53

/-- The significand nearest to `n / d` at the exponent `e`. -/
def significand (n d : Nat) (e : Int) : Nat :=
  roundHalfEven (n <<< (-e).toNat) (d <<< e.toNat)

/-- The binary64 number nearest to `n / d`, for positive `n` and `d` whose quotient is no less than
the least normal number; `none` if rounding reaches `2 ^ 1024`. -/
def nearest? (n d : Nat) : Option Rat :=
  let e := exponent n d
  let m := significand n d e
  if 1 <<< (1024 + (-e).toNat) ≤ m <<< e.toNat then none
  else some (mkRat (m <<< e.toNat : Nat) (1 <<< (-e).toNat))

end ObjectStorage.Binary64

/-!
# Decimal numerals

* `digits n`: the decimal digits of a natural number.
* `integer n`: the decimal text of an integer, with `-` in front of a negative one.
* `hexadecimal width n`: the lower-case hexadecimal digits of a natural number, filled with zeros.
* `value cs`: the number that a text of digits stands for.
* `digitLimit`: the most digits that an integer may have to be written or read as text.
* `integer_injective`: two integers have the same text only if they are equal.
-/

namespace ObjectStorage.Text.Numeral

/-- The most decimal digits that an integer may have to be written as text, or read from one. -/
def digitLimit : Nat := 4300

/-- One of the ten digits `0` to `9`. -/
def isDigit (c : Char) : Bool := c.isDigit

/-- The decimal digits of `n`, the highest first. -/
def digits (n : Nat) : List Char := Nat.toDigits 10 n

/-- The lower-case hexadecimal digits of `n`, with zeros in front up to the given width. -/
def hexadecimal (width n : Nat) : List Char :=
  let ds := Nat.toDigits 16 n
  List.replicate (width - ds.length) '0' ++ ds

/-- The number that a text of digits stands for. -/
def value (cs : List Char) : Nat := Nat.ofDigitChars 10 cs 0

/-- The decimal text of an integer. -/
def integer : Int → List Char
  | .ofNat n => digits n
  | .negSucc n => '-' :: digits (n + 1)

/-- Whether an integer has few enough digits to be written. -/
def isWritable (n : Int) : Bool := n.natAbs < Nat.pow 10 digitLimit

@[simp] theorem value_digits (n : Nat) : value (digits n) = n :=
  Nat.ofDigitChars_toDigits (by decide) (by decide)

theorem digits_ne_nil (n : Nat) : digits n ≠ [] := by
  intro h
  have hlen : 0 < (digits n).length := Nat.length_toDigits_pos
  simp [h] at hlen

theorem isDigit_of_mem_digits {n : Nat} {c : Char} (h : c ∈ digits n) : isDigit c = true :=
  Nat.isDigit_of_mem_toDigits (by decide) (by decide) h

/-- A sign is no digit, so no numeral of a natural number begins with it. -/
theorem digits_ne_minus (m n : Nat) : digits m ≠ '-' :: digits n := by
  intro h
  have hc : isDigit '-' = true := isDigit_of_mem_digits (n := m) (by simp [h])
  exact absurd hc (by decide)

/-- Two integers have the same text only if they are equal. -/
theorem integer_injective {m n : Int} (h : integer m = integer n) : m = n := by
  cases m with
  | ofNat m =>
    cases n with
    | ofNat n =>
      have hd : digits m = digits n := h
      have hv := congrArg value hd
      simp only [value_digits] at hv
      rw [hv]
    | negSucc n => exact absurd h (digits_ne_minus _ _)
  | negSucc m =>
    cases n with
    | ofNat n => exact absurd h.symm (digits_ne_minus _ _)
    | negSucc n =>
      have hd : digits (m + 1) = digits (n + 1) := List.tail_eq_of_cons_eq h
      have hv := congrArg value hd
      simp only [value_digits] at hv
      omega

end ObjectStorage.Text.Numeral

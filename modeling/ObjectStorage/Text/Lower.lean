/-!
# Lower case, as far as names made of ASCII letters can tell

* `lower c`: the lower case of an ASCII letter, and of the two letters outside ASCII whose lower
  case holds an ASCII letter: U+212A (Kelvin sign) and U+0130 (I with a dot above).
* `lowerAll cs`: every character of `cs` in lower case.
-/

namespace ObjectStorage.Text

/-- The lower case of `c`, of a letter outside ASCII only where it holds an ASCII letter. -/
def lower (c : Char) : List Char :=
  if c = '\u212A' then ['k']
  else if c = '\u0130' then ['i', '\u0307']
  else [c.toLower]

/-- Every character of `cs` in lower case. -/
def lowerAll (cs : List Char) : List Char :=
  cs.flatMap lower

@[simp] theorem lowerAll_nil : lowerAll [] = [] := rfl

@[simp] theorem lowerAll_cons (c : Char) (cs : List Char) :
    lowerAll (c :: cs) = lower c ++ lowerAll cs := rfl

/-- Lower case never shortens a text. -/
theorem length_le_length_lowerAll (cs : List Char) : cs.length ≤ (lowerAll cs).length := by
  induction cs with
  | nil => exact Nat.le_refl _
  | cons c cs ih =>
    have hc : 1 ≤ (lower c).length := by
      unfold lower
      split
      · exact Nat.le_refl _
      · split <;> simp
    simp only [lowerAll_cons, List.length_append, List.length_cons]
    omega

end ObjectStorage.Text

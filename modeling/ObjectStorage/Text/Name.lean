import ObjectStorage.Text.Blank
import ObjectStorage.Text.Lower

/-!
# Reading the name of one of several values

* `spelled? all name s`: the value in the list `all` whose name is `s`, letter for letter.
* `fold s`: a name as it is compared: less its outer blanks and in lower case.
* `folded? all name s`: the value whose name is the folded `s`, so that letter case and outer blanks
  do not count.
* `spelled?_eq_some`, `folded?_eq_some`: what is found is in the list and has that name.
-/

namespace ObjectStorage.Text.Name

variable {α : Type}

/-- A name as it is compared: less its outer blanks and in lower case. -/
def fold (s : String) : List Char :=
  lowerAll (trim isOuterBlank s.toList)

/-- The value whose name is `s`, letter for letter. -/
def spelled? (all : List α) (name : α → String) (s : String) : Option α :=
  all.find? fun a => name a = s

/-- The value whose name is `s` up to letter case and outer blanks. -/
def folded? (all : List α) (name : α → String) (s : String) : Option α :=
  all.find? fun a => (name a).toList = fold s

theorem spelled?_eq_some {all : List α} {name : α → String} {s : String} {a : α}
    (h : spelled? all name s = some a) : a ∈ all ∧ name a = s :=
  ⟨List.mem_of_find?_eq_some h, by simpa using List.find?_some h⟩

theorem folded?_eq_some {all : List α} {name : α → String} {s : String} {a : α}
    (h : folded? all name s = some a) : a ∈ all ∧ (name a).toList = fold s :=
  ⟨List.mem_of_find?_eq_some h, by simpa using List.find?_some h⟩

end ObjectStorage.Text.Name

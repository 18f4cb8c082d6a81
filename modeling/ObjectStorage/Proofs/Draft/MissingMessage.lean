import ObjectStorage.Fault
import ObjectStorage.Proofs.Text.Digits
import ObjectStorage.Proofs.Text.Pieces

/-!
# The message about missing fields

* `quotedNames`: the names that a message puts between single marks, in their order.
* `betweenMarks_append`: the first name of a text, from which everything about them follows.
* `betweenMarks_enumeration`: an enumeration, in any of its forms, is read back as its names.
* `quotedNames_missingMessage`, `thirdWord?_missingMessage`: the message names the missing fields and gives
  their number.
-/

namespace ObjectStorage

open ObjectStorage.Text ObjectStorage.Text.Numeral

/-! ## Names between marks -/

/-- Every second item of a list. -/
def everySecond {α : Type} : List α → List α
  | _ :: b :: rest => b :: everySecond rest
  | _ => []

/-- The texts between pairs of single marks. -/
def betweenMarks (cs : List Char) : List (List Char) := everySecond (cs.splitOn '\x27')

/-- The names that a message puts between single marks. -/
def quotedNames (message : String) : List String := (betweenMarks message.toList).map String.ofList

/-- A text without single marks. -/
def Unmarked (cs : List Char) : Prop := '\x27' ∉ cs

instance : DecidablePred Unmarked := fun cs => inferInstanceAs (Decidable ('\x27' ∉ cs))

variable {u name : List Char}

/-- The first name of a text stands between its first two marks. -/
theorem betweenMarks_append (hu : Unmarked u) (hname : Unmarked name) (cs : List Char) :
    betweenMarks (u ++ '\x27' :: (name ++ '\x27' :: cs)) = name :: betweenMarks cs := by
  rw [betweenMarks, splitOn_append_cons hu, splitOn_append_cons hname]
  rfl

theorem betweenMarks_of_unmarked (hu : Unmarked u) : betweenMarks u = [] := by
  rw [betweenMarks, List.splitOn_eq_singleton hu]
  rfl

theorem Unmarked.append {v : List Char} (hu : Unmarked u) (hv : Unmarked v) : Unmarked (u ++ v) := by
  intro h
  exact (List.mem_append.mp h).elim hu hv

/-- A text that ends with its only name. -/
theorem betweenMarks_one (hu : Unmarked u) (hname : Unmarked name) :
    betweenMarks (u ++ '\x27' :: (name ++ ['\x27'])) = [name] := by
  rw [betweenMarks_append hu hname, betweenMarks_of_unmarked (by decide)]

/-! ## Enumerations -/

/-- The names of an enumeration that stand before the last one, each with a comma. -/
def leadingNames (names : List String) : String :=
  String.join (names.map fun a => "'" ++ a ++ "', ")

theorem toList_leadingNames_cons (a : String) (names : List String) :
    (leadingNames (a :: names)).toList =
      '\x27' :: (a.toList ++ '\x27' :: ([',', ' '] ++ (leadingNames names).toList)) := by
  simp [leadingNames]

/-- With at least three names, `and` stands in front of the last one. -/
theorem enumeration_concat {names : List String} (h : 2 ≤ names.length) (last : String) :
    enumeration (names ++ [last]) = leadingNames names ++ ("and '" ++ last ++ "'") := by
  have hlength : 3 ≤ (names ++ [last]).length := by simpa using h
  rw [enumeration.eq_4, List.dropLast_concat, List.getLast?_concat]
  · simp [leadingNames]
  · intro heq
    simp [heq] at hlength
  · intro a heq
    simp [heq] at hlength
  · intro a b heq
    simp [heq] at hlength

variable {names : List String}

/-- Leading names are read one after the other, and the last one after them. -/
theorem betweenMarks_leadingNames {last : String} (hnames : ∀ a ∈ names ++ [last], Unmarked a.toList)
    (hu : Unmarked u) :
    betweenMarks (u ++ (leadingNames names ++ ("and '" ++ last ++ "'")).toList) =
      (names ++ [last]).map String.toList := by
  induction names generalizing u with
  | nil =>
    have hand : Unmarked (u ++ "and ".toList) := hu.append (by decide)
    have hone := betweenMarks_one hand (hnames last (by simp))
    simpa [leadingNames] using hone
  | cons a names ih =>
    obtain ⟨ha, hrest⟩ := List.forall_mem_cons.mp hnames
    have hfirst := betweenMarks_append hu ha
      ([',', ' '] ++ (leadingNames names ++ ("and '" ++ last ++ "'")).toList)
    rw [ih hrest (by decide)] at hfirst
    simpa [toList_leadingNames_cons] using hfirst

/-- An enumeration, in any of its forms, is read back as its names. -/
theorem betweenMarks_enumeration (hnames : ∀ a ∈ names, Unmarked a.toList) (hu : Unmarked u) :
    betweenMarks (u ++ (enumeration names).toList) = names.map String.toList := by
  match names with
  | [] => simpa [enumeration] using betweenMarks_of_unmarked hu
  | [a] =>
    have hone := betweenMarks_one hu (hnames a (by simp))
    simpa [enumeration] using hone
  | [a, b] =>
    have hsecond := betweenMarks_one (u := " and ".toList) (by decide) (hnames b (by simp))
    have hfirst := betweenMarks_append hu (hnames a (by simp))
      (" and ".toList ++ '\x27' :: (b.toList ++ ['\x27']))
    rw [hsecond] at hfirst
    simpa [enumeration] using hfirst
  | a :: b :: c :: rest =>
    obtain ⟨init, last, hconcat⟩ : ∃ init last, a :: b :: c :: rest = init ++ [last] :=
      ⟨_, _, (List.dropLast_concat_getLast (List.cons_ne_nil _ _)).symm⟩
    have hlength : rest.length + 3 = init.length + 1 := by simpa using congrArg List.length hconcat
    rw [hconcat] at hnames ⊢
    rw [enumeration_concat (by omega)]
    exact betweenMarks_leadingNames hnames hu

/-! ## The message -/

/-- The number that a message gives as its third word. -/
def thirdWord? (message : String) : Option Nat := (message.toList.splitOn ' ')[2]?.map value

theorem unmarked_key (f : Field) : Unmarked f.key.toList := by
  cases f <;> simp [Unmarked, Field.key]

/-- What the message says before it names the fields. -/
def missingHead (n : Nat) : List Char :=
  "StorageOptions.__init__()".toList ++ ' ' :: ("missing".toList ++ ' ' :: (digits n ++
    ' ' :: (if n = 1 then "required positional argument: "
      else "required positional arguments: ").toList))

theorem toList_missingMessage (fs : List Field) :
    (missingMessage fs).toList = missingHead fs.length ++ (enumeration (fs.map Field.key)).toList := by
  unfold missingMessage missingHead
  split <;> simp

theorem unmarked_missingHead (n : Nat) : Unmarked (missingHead n) := by
  have hdigits : '\x27' ∉ digits n := not_mem_digits rfl
  unfold missingHead
  split <;> simp [Unmarked, hdigits]

/-- The number is the third word of what stands before the names. -/
theorem splitOn_missingHead (n : Nat) (cs : List Char) :
    ∃ rest, (missingHead n ++ cs).splitOn ' ' =
      "StorageOptions.__init__()".toList :: "missing".toList :: digits n :: rest := by
  have hfirst : ' ' ∉ "StorageOptions.__init__()".toList := by simp
  have hsecond : ' ' ∉ "missing".toList := by simp
  have hdigits : ' ' ∉ digits n := not_mem_digits rfl
  unfold missingHead
  rw [List.append_assoc, List.cons_append, splitOn_append_cons hfirst, List.append_assoc,
    List.cons_append, splitOn_append_cons hsecond, List.append_assoc, List.cons_append,
    splitOn_append_cons hdigits]
  exact ⟨_, rfl⟩

/-- The message about missing fields names them, each in its place. -/
theorem quotedNames_missingMessage (fs : List Field) :
    quotedNames (missingMessage fs) = fs.map Field.key := by
  have hkeys : ∀ a ∈ fs.map Field.key, Unmarked a.toList := by
    intro a ha
    obtain ⟨f, -, rfl⟩ := List.mem_map.mp ha
    exact unmarked_key f
  rw [quotedNames, toList_missingMessage, betweenMarks_enumeration hkeys (unmarked_missingHead _)]
  simp

example : missingMessage [.transport, .serverSideCopy, .requesterPays] =
    "StorageOptions.__init__() missing 3 required positional arguments: 'transport_type', " ++
      "'copy_with_rewrite_enabled', and 'requester_pays_options'" := by decide

/-- The message about missing fields gives their number. -/
theorem thirdWord?_missingMessage (fs : List Field) :
    thirdWord? (missingMessage fs) = some fs.length := by
  obtain ⟨rest, hsplit⟩ := splitOn_missingHead fs.length (enumeration (fs.map Field.key)).toList
  rw [thirdWord?, toList_missingMessage, hsplit]
  exact congrArg some (value_digits fs.length)

end ObjectStorage

/-!
# Sets of bucket names

A set of names is the strictly ascending list of its members, so that equal sets are equal values
and the list in which a set is written out is the set itself.

* `Buckets`: such a list; the order is by code point.
* `Buckets.insert`, `Buckets.ofList`: a set with one name more, and the set of the names in a list.
* `mem_insert`, `mem_ofList`: the members of these two.
* `ext`: two sets with the same members are equal.
-/

namespace ObjectStorage

/-- A set of bucket names, as the strictly ascending list of its members. -/
structure Buckets where
  names : List String
  ascending : names.Pairwise (· < ·)
  deriving DecidableEq

namespace Buckets

/-- The set without members. -/
def empty : Buckets := ⟨[], .nil⟩

/-! ## Insertion into an ascending list -/

/-- The ascending list with one name more. -/
def insertName (s : String) : List String → List String
  | [] => [s]
  | t :: ts =>
    if s = t then t :: ts
    else if s < t then s :: t :: ts
    else t :: insertName s ts

@[simp] theorem mem_insertName {s t : String} {ts : List String} :
    t ∈ insertName s ts ↔ t = s ∨ t ∈ ts := by
  induction ts with
  | nil => simp [insertName]
  | cons u us ih =>
    unfold insertName
    split
    · next h => simp [h]
    · split
      · simp
      · simp only [List.mem_cons, ih]
        exact or_left_comm

/-- Of two different names, one comes before the other. -/
theorem lt_of_not_lt {s t : String} (hne : s ≠ t) (h : ¬ s < t) : t < s := by
  by_cases h' : t < s
  · exact h'
  · exact absurd (String.le_antisymm (String.not_lt.1 h') (String.not_lt.1 h)) hne

theorem insertName_ascending (s : String) {ts : List String} (h : ts.Pairwise (· < ·)) :
    (insertName s ts).Pairwise (· < ·) := by
  induction ts with
  | nil => simp [insertName]
  | cons t ts ih =>
    obtain ⟨hfirst, hrest⟩ := List.pairwise_cons.1 h
    unfold insertName
    split
    · exact h
    · next hne =>
      split
      · next hlt =>
        refine List.pairwise_cons.2 ⟨fun u hu => ?_, h⟩
        rcases List.mem_cons.1 hu with rfl | hu
        · exact hlt
        · exact String.lt_trans hlt (hfirst u hu)
      · next hnlt =>
        refine List.pairwise_cons.2 ⟨fun u hu => ?_, ih hrest⟩
        rcases mem_insertName.1 hu with rfl | hu
        · exact lt_of_not_lt hne hnlt
        · exact hfirst u hu

/-! ## Sets -/

instance : Membership String Buckets := ⟨fun b s => s ∈ b.names⟩

theorem mem_def {s : String} {b : Buckets} : s ∈ b ↔ s ∈ b.names := Iff.rfl

/-- The set with one name more. -/
def insert (s : String) (b : Buckets) : Buckets :=
  ⟨insertName s b.names, insertName_ascending s b.ascending⟩

/-- The set of the names in a list. -/
def ofList (names : List String) : Buckets :=
  names.foldr insert empty

@[simp] theorem mem_insert {s t : String} {b : Buckets} : t ∈ b.insert s ↔ t = s ∨ t ∈ b :=
  mem_insertName

@[simp] theorem mem_ofList {t : String} {names : List String} : t ∈ ofList names ↔ t ∈ names := by
  induction names with
  | nil => simp [ofList, empty, mem_def]
  | cons s names ih =>
    have hcons : ofList (s :: names) = (ofList names).insert s := rfl
    rw [hcons, mem_insert, ih, List.mem_cons]

/-- An ascending list is determined by its members. -/
theorem ascending_ext {xs ys : List String} (hx : xs.Pairwise (· < ·)) (hy : ys.Pairwise (· < ·))
    (h : ∀ s, s ∈ xs ↔ s ∈ ys) : xs = ys := by
  induction xs generalizing ys with
  | nil =>
    cases ys with
    | nil => rfl
    | cons y ys => exact absurd ((h y).2 (by simp)) (by simp)
  | cons x xs ih =>
    cases ys with
    | nil => exact absurd ((h x).1 (by simp)) (by simp)
    | cons y ys =>
      obtain ⟨hx1, hx2⟩ := List.pairwise_cons.1 hx
      obtain ⟨hy1, hy2⟩ := List.pairwise_cons.1 hy
      -- each head is a member of the other list, so neither can come first
      have hxy : x = y := by
        rcases List.mem_cons.1 ((h x).1 (by simp)) with rfl | hxm
        · rfl
        · rcases List.mem_cons.1 ((h y).2 (by simp)) with rfl | hym
          · rfl
          · exact absurd (String.lt_trans (hx1 y hym) (hy1 x hxm)) (String.lt_irrefl x)
      subst hxy
      congr 1
      refine ih hx2 hy2 fun s => ⟨fun hs => ?_, fun hs => ?_⟩
      · rcases List.mem_cons.1 ((h s).1 (by simp [hs])) with rfl | hm
        · exact absurd (hx1 s hs) (String.lt_irrefl s)
        · exact hm
      · rcases List.mem_cons.1 ((h s).2 (by simp [hs])) with rfl | hm
        · exact absurd (hy1 s hs) (String.lt_irrefl s)
        · exact hm

/-- Two sets with the same members are equal. -/
theorem ext {a b : Buckets} (h : ∀ s, s ∈ a ↔ s ∈ b) : a = b := by
  have hnames : a.names = b.names := ascending_ext a.ascending b.ascending h
  cases a
  cases b
  simpa using hnames

/-- The set of a set's own members is the set. -/
@[simp] theorem ofList_names (b : Buckets) : ofList b.names = b :=
  ext fun _ => mem_ofList

end Buckets

end ObjectStorage

import ObjectStorage.Proofs.Environment.BucketList
import ObjectStorage.Proofs.Environment.IntegerText
import ObjectStorage.Proofs.Environment.Part

/-!
# Writing the value of a variable

* `Form.Fits`: what can be said of the parts of settings that are read from texts.
* `Form.IsShort`: an integer whose text is short enough to be read.
* `Form.text?`: the text of such a part; nothing for a text that is left out or for no buckets at all.
* `fits_of_read`: what is read from a text fits.
* `read_of_text?`: the text of a part that fits is read as that part.
-/

namespace ObjectStorage.Variable.Form

open ObjectStorage.Text ObjectStorage.Text.Numeral

/-- What can be said of a part of settings that is read from a text: a text is not empty, an integer has
at most `digitLimit` digits, and bucket names are listable. -/
def Fits : (k : Form) → k.Part → Prop
  | text, s => s ≠ some ""
  | number, n => (digits n.natAbs).length ≤ digitLimit
  | buckets, b => ∀ name ∈ b, Listable name
  | _, _ => True

/-- An integer is short if its text, with the sign, has at most `digitLimit` characters. -/
def IsShort : (k : Form) → k.Part → Prop
  | number, n => (integer n).length ≤ digitLimit
  | _, _ => True

instance : (k : Form) → (p : k.Part) → Decidable (k.Fits p)
  | .text, s => inferInstanceAs (Decidable (s ≠ some ""))
  | .number, n => inferInstanceAs (Decidable ((digits n.natAbs).length ≤ digitLimit))
  | .buckets, b => inferInstanceAs (Decidable (∀ name ∈ b.names, Listable name))
  | .flag, _ | .transport, _ | .mode, _ => isTrue trivial

instance : (k : Form) → (p : k.Part) → Decidable (k.IsShort p)
  | .number, n => inferInstanceAs (Decidable ((integer n).length ≤ digitLimit))
  | .text, _ | .flag, _ | .transport, _ | .mode, _ | .buckets, _ => isTrue trivial

/-- The text of a part of settings, where `order` lists the members of a set of buckets in some order. -/
def text? (order : Buckets → List String) : (k : Form) → k.Part → Option String
  | text, s => s
  | flag, b => some (if b then "true" else "false")
  | number, n => some (String.ofList (integer n))
  | transport, t => some t.name
  | mode, m => some m.name
  | buckets, b => if b.names = [] then none else some (",".intercalate (order b))

/-! ## Reading -/

theorem read_of_readNumber {s : String} {n : Int} (h : readNumber (.text s) = .ok n) :
    IntegerText.read s = .ok n := by
  cases hread : IntegerText.read s with
  | ok m =>
    simp only [readNumber, hread] at h
    rw [Except.ok.inj h]
  | error u => cases u <;> simp [readNumber, hread] at h

/-- What is read from a text fits. -/
theorem fits_of_read {k : Form} {s : String} {x : k.Value} (hs : s ≠ "")
    (h : k.read (.text s) = .ok x) : k.Fits (k.part x) := by
  cases k with
  | text =>
    obtain rfl : s = x := Except.ok.inj h
    exact fun hempty => hs (Option.some.inj hempty)
  | flag => trivial
  | number =>
    exact IntegerText.length_digits_of_read (read_of_readNumber h)
  | transport => trivial
  | mode => trivial
  | buckets =>
    obtain rfl : Buckets.ofList (bucketList s) = x := Except.ok.inj h
    exact fun name hname => listable_of_mem_bucketList (Buckets.mem_ofList.mp hname)

/-! ## Writing and reading -/

variable {order : Buckets → List String}

theorem order_ne_nil (horder : ∀ b name, name ∈ order b ↔ name ∈ b) {b : Buckets} (hb : b.names ≠ []) :
    order b ≠ [] := by
  intro hnil
  obtain ⟨name, hname⟩ := List.exists_mem_of_ne_nil _ hb
  have hmem := (horder b name).mpr hname
  rw [hnil] at hmem
  cases hmem

/-- The text of a part that fits is read as that part. -/
theorem read_of_text? (horder : ∀ b name, name ∈ order b ↔ name ∈ b) {k : Form} {p : k.Part} {s : String}
    (hfits : k.Fits p) (hshort : k.IsShort p) (h : k.text? order p = some s) :
    ∃ x, k.read (.text s) = .ok x ∧ k.part x = p := by
  cases k with
  | text => exact ⟨s, rfl, h.symm⟩
  | flag =>
    obtain rfl := Option.some.inj h
    refine ⟨p, ?_, rfl⟩
    cases p <;> rfl
  | number =>
    obtain rfl := Option.some.inj h
    refine ⟨p, ?_, rfl⟩
    have hread := IntegerText.read_integer (Nat.le_trans (IntegerText.length_digits_le p) hshort)
    simp only [read, readNumber, hread]
  | transport =>
    obtain rfl := Option.some.inj h
    refine ⟨p, ?_, rfl⟩
    cases p <;> rfl
  | mode =>
    obtain rfl := Option.some.inj h
    refine ⟨p, ?_, rfl⟩
    cases p <;> rfl
  | buckets =>
    have hnames : p.names ≠ [] := by
      intro hnil
      simp [text?, hnil] at h
    have hs : ",".intercalate (order p) = s := by
      simpa [text?, hnames] using h
    have hlist : bucketList s = order p := by
      rw [← hs]
      exact bucketList_intercalate (order_ne_nil horder hnames) fun name hname =>
        hfits name ((horder p name).mp hname)
    refine ⟨.ofList (bucketList s), rfl, ?_⟩
    refine Buckets.ext fun name => ?_
    rw [part, Buckets.mem_ofList, hlist, horder]

/-- The text of a part that fits is not empty. -/
theorem text?_ne_empty (horder : ∀ b name, name ∈ order b ↔ name ∈ b) {k : Form} {p : k.Part}
    (hfits : k.Fits p) : k.text? order p ≠ some "" := by
  cases k with
  | text => exact hfits
  | flag => cases p <;> exact fun h => absurd (Option.some.inj h) (by decide)
  | number =>
    intro h
    have hnil : integer p = [] := String.ofList_eq_empty_iff.mp (Option.some.inj h)
    cases p with
    | ofNat n => exact digits_ne_nil n hnil
    | negSucc n => cases hnil
  | transport => cases p <;> exact fun h => absurd (Option.some.inj h) (by decide)
  | mode => cases p <;> exact fun h => absurd (Option.some.inj h) (by decide)
  | buckets =>
    intro h
    -- the empty text would be read as no name at all
    obtain ⟨x, hread, hx⟩ := read_of_text? horder (k := buckets) hfits trivial h
    have hp : p = .ofList (bucketList "") := hx.symm.trans (Except.ok.inj hread).symm
    have hnil : p.names = [] := by
      rw [hp]
      rfl
    simp [text?, hnil] at h

end ObjectStorage.Variable.Form

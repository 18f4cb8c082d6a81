import Mathlib.Data.List.Forall2
import ObjectStorage.Document.Outline
import ObjectStorage.Proofs.Text.Digits
import ObjectStorage.Proofs.Text.Pieces

/-!
# What an outline tells apart

An outline has no marks around its texts, so that not every document can be read back from it. Where one can, it
can be split off the front of any longer text.

* `ToldApart depth d d'`: two documents under one key, of which the outline says which it is and where it ends.
* `toldApart_of_isLine`: two values on one line are told apart if their lines differ.
* `toldApart_object`: two objects are told apart if the documents under their keys are.
* `commaSeparated_inj`: texts without commas can be told from what stands between the commas.
-/

namespace ObjectStorage.Outline

open ObjectStorage.Text ObjectStorage.Text.Numeral

variable {depth : Nat} {d d' : Document}

/-- Whatever follows them, the outlines of two documents under one key are the same only if the documents are,
and then they end in one place. -/
def ToldApart (depth : Nat) (d d' : Document) : Prop :=
  ∀ rest rest', afterKey depth d ++ rest = afterKey depth d' ++ rest' → d = d' ∧ rest = rest'

/-! ## Lines -/

/-- A document that takes a single line. -/
structure IsLine (d : Document) : Prop where
  afterKey_eq : ∀ depth, afterKey depth d = ' ' :: value d ++ ['\n']
  unbroken : '\n' ∉ value d

/-- A text without line feeds ends in front of the first one. -/
theorem append_newline_inj {cs ds rest rest' : List Char} (hcs : '\n' ∉ cs) (hds : '\n' ∉ ds)
    (h : cs ++ '\n' :: rest = ds ++ '\n' :: rest') : cs = ds ∧ rest = rest' := by
  have hpieces := congrArg (List.splitOn '\n') h
  rw [splitOn_append_cons hcs, splitOn_append_cons hds] at hpieces
  obtain rfl : cs = ds := (List.cons.inj hpieces).1
  exact ⟨rfl, (List.cons.inj (List.append_cancel_left h)).2⟩

/-- Two values on one line are told apart if no two have the same line. -/
theorem toldApart_of_isLine (hd : IsLine d) (hd' : IsLine d') (hinj : value d = value d' → d = d') :
    ToldApart depth d d' := by
  intro rest rest' h
  rw [hd.afterKey_eq, hd'.afterKey_eq] at h
  simp only [List.cons_append, List.append_assoc, List.nil_append, List.cons.injEq, true_and] at h
  obtain ⟨hvalue, hrest⟩ := append_newline_inj hd.unbroken hd'.unbroken h
  exact ⟨hinj hvalue, hrest⟩

theorem isLine_flag (b : Bool) : IsLine (.flag b) where
  afterKey_eq _ := rfl
  unbroken := by cases b <;> decide

theorem isLine_number (n : Int) : IsLine (.number n) where
  afterKey_eq _ := rfl
  unbroken := not_mem_integer rfl (by decide)

theorem isLine_text {s : String} (h : '\n' ∉ s.toList) : IsLine (.text s) where
  afterKey_eq _ := rfl
  unbroken := h

theorem isLine_null : IsLine .null where
  afterKey_eq _ := rfl
  unbroken := by decide

theorem toldApart_flag (b b' : Bool) : ToldApart depth (.flag b) (.flag b') := by
  refine toldApart_of_isLine (isLine_flag b) (isLine_flag b') fun h => ?_
  cases b <;> cases b' <;> first | rfl | exact absurd h (by decide)

theorem toldApart_number (n n' : Int) : ToldApart depth (.number n) (.number n') :=
  toldApart_of_isLine (isLine_number n) (isLine_number n') fun h =>
    congrArg Document.number (integer_injective h)

theorem toldApart_text {s s' : String} (h : '\n' ∉ s.toList) (h' : '\n' ∉ s'.toList) :
    ToldApart depth (.text s) (.text s') :=
  toldApart_of_isLine (isLine_text h) (isLine_text h') fun heq =>
    congrArg Document.text (String.toList_inj.mp heq)

/-! ## Texts that may be left out -/

/-- A text on a line of its own that is not the word for one left out. -/
structure IsLegible (s : String) : Prop where
  ne_unset : s ≠ "(unset)"
  unbroken : '\n' ∉ s.toList

instance (s : String) : Decidable (IsLegible s) :=
  decidable_of_iff (s ≠ "(unset)" ∧ '\n' ∉ s.toList)
    ⟨fun ⟨hne, hbreak⟩ => ⟨hne, hbreak⟩, fun h => ⟨h.ne_unset, h.unbroken⟩⟩

theorem isLine_ofOption {o : Option String} (h : ∀ s ∈ o, IsLegible s) : IsLine (.ofOption o) := by
  cases o with
  | none => exact isLine_null
  | some s => exact isLine_text (h s rfl).unbroken

theorem toldApart_ofOption {o o' : Option String} (h : ∀ s ∈ o, IsLegible s) (h' : ∀ s ∈ o', IsLegible s) :
    ToldApart depth (.ofOption o) (.ofOption o') := by
  have hunset {s : String} (hs : IsLegible s) : "(unset)".toList ≠ s.toList := fun heq =>
    hs.ne_unset (String.toList_inj.mp heq).symm
  refine toldApart_of_isLine (isLine_ofOption h) (isLine_ofOption h') fun heq => ?_
  cases o with
  | none =>
    cases o' with
    | none => rfl
    | some s' => exact absurd heq (hunset (h' s' rfl))
  | some s =>
    cases o' with
    | none => exact absurd heq.symm (hunset (h s rfl))
    | some s' => exact congrArg Document.text (String.toList_inj.mp heq)

/-! ## Lists of texts -/

theorem commaSeparated_ne_nil {t : List Char} (h : t ≠ []) {ts : List (List Char)} :
    commaSeparated (t :: ts) ≠ [] := by
  cases ts <;> simp [commaSeparated, h]

/-- Between the commas stand the texts, each but the first after a blank. -/
theorem splitOn_commaSeparated {t : List Char} {ts : List (List Char)} (h : ∀ u ∈ t :: ts, ',' ∉ u) :
    (commaSeparated (t :: ts)).splitOn ',' = t :: ts.map (' ' :: ·) := by
  induction ts generalizing t with
  | nil => exact List.splitOn_eq_singleton (h t List.mem_cons_self)
  | cons u ts ih =>
    obtain ⟨ht, hts⟩ := List.forall_mem_cons.mp h
    -- the blank behind the comma goes to the piece that comes next
    have hjoined : commaSeparated (t :: u :: ts) = t ++ ',' :: ' ' :: commaSeparated (u :: ts) := rfl
    rw [hjoined, splitOn_append_cons ht, List.splitOn_cons_eq_if_modifyHead, if_neg (by decide), ih hts]
    rfl

/-- Nonempty texts without commas can be told from what stands between the commas. -/
theorem commaSeparated_inj {ts us : List (List Char)} (hts : ∀ t ∈ ts, t ≠ [] ∧ ',' ∉ t)
    (hus : ∀ u ∈ us, u ≠ [] ∧ ',' ∉ u) (h : commaSeparated ts = commaSeparated us) : ts = us := by
  have hpieces := congrArg (List.splitOn ',') h
  cases ts with
  | nil =>
    cases us with
    | nil => rfl
    | cons u us => exact absurd h.symm (commaSeparated_ne_nil (hus u List.mem_cons_self).1)
  | cons t ts =>
    cases us with
    | nil => exact absurd h (commaSeparated_ne_nil (hts t List.mem_cons_self).1)
    | cons u us =>
      rw [splitOn_commaSeparated fun t ht => (hts t ht).2,
        splitOn_commaSeparated fun u hu => (hus u hu).2] at hpieces
      obtain ⟨rfl, hrest⟩ := List.cons.inj hpieces
      rw [List.map_injective_iff.mpr List.cons_injective hrest]

/-- A character that stands in none of the texts stands nowhere between commas and blanks. -/
theorem not_mem_commaSeparated {c : Char} (hcomma : c ≠ ',') (hblank : c ≠ ' ') {ts : List (List Char)}
    (h : ∀ t ∈ ts, c ∉ t) : c ∉ commaSeparated ts := by
  induction ts with
  | nil => exact List.not_mem_nil
  | cons t ts ih =>
    obtain ⟨ht, hts⟩ := List.forall_mem_cons.mp h
    cases ts with
    | nil => exact ht
    | cons u ts => simpa [commaSeparated, ht, hcomma, hblank] using ih hts

/-- A text that can be told from its neighbours in a list on one line. -/
structure IsItem (name : String) : Prop where
  nonempty : name ≠ ""
  commaFree : ',' ∉ name.toList
  unbroken : '\n' ∉ name.toList

instance (name : String) : Decidable (IsItem name) :=
  decidable_of_iff (name ≠ "" ∧ ',' ∉ name.toList ∧ '\n' ∉ name.toList)
    ⟨fun ⟨hne, hcomma, hbreak⟩ => ⟨hne, hcomma, hbreak⟩, fun h => ⟨h.nonempty, h.commaFree, h.unbroken⟩⟩

theorem IsItem.toList_ne_nil {name : String} (h : IsItem name) : name.toList ≠ [] := fun hnil =>
  h.nonempty (String.toList_eq_nil_iff.mp hnil)

/-- The texts that a list is written with: a word where it has none. -/
def shownNames : List String → List String
  | [] => ["(none)"]
  | names => names

variable {names names' : List String}

theorem isItem_shownNames (h : ∀ name ∈ names, IsItem name) : ∀ name ∈ shownNames names, IsItem name := by
  cases names with
  | nil => exact List.forall_mem_singleton.mpr (by decide)
  | cons name names => exact h

/-- Only the list of the word itself is written like the list without texts. -/
theorem shownNames_inj (hne : names ≠ ["(none)"]) (hne' : names' ≠ ["(none)"])
    (h : shownNames names = shownNames names') : names = names' := by
  cases names with
  | nil =>
    cases names' with
    | nil => rfl
    | cons name' names' => exact absurd h.symm hne'
  | cons name names =>
    cases names' with
    | nil => exact absurd h hne
    | cons name' names' => exact h

/-- A list of texts is written as these texts between commas. -/
theorem value_list (h : ∀ name ∈ names, IsItem name) :
    value (.list (names.map .text)) = commaSeparated ((shownNames names).map String.toList) := by
  have hitems : (names.map Document.text).map item = names.map String.toList := by
    rw [List.map_map]
    rfl
  cases names with
  | nil => rfl
  | cons name names =>
    have hname : name.toList ≠ [] := (h name List.mem_cons_self).toList_ne_nil
    show list _ = _
    rw [list, hitems]
    split
    · next hline => exact absurd hline (commaSeparated_ne_nil hname)
    · rfl

theorem isLine_list (h : ∀ name ∈ names, IsItem name) : IsLine (.list (names.map .text)) where
  afterKey_eq _ := rfl
  unbroken := by
    rw [value_list h]
    refine not_mem_commaSeparated (by decide) (by decide) (List.forall_mem_map.mpr fun name hname => ?_)
    exact (isItem_shownNames h name hname).unbroken

theorem toldApart_list (h : ∀ name ∈ names, IsItem name) (h' : ∀ name ∈ names', IsItem name)
    (hne : names ≠ ["(none)"]) (hne' : names' ≠ ["(none)"]) :
    ToldApart depth (.list (names.map .text)) (.list (names'.map .text)) := by
  have hshown {names : List String} (h : ∀ name ∈ names, IsItem name) :
      ∀ t ∈ (shownNames names).map String.toList, t ≠ [] ∧ ',' ∉ t := by
    refine List.forall_mem_map.mpr fun name hname => ?_
    have hitem := isItem_shownNames h name hname
    exact ⟨hitem.toList_ne_nil, hitem.commaFree⟩
  refine toldApart_of_isLine (isLine_list h) (isLine_list h') fun heq => ?_
  rw [value_list h, value_list h'] at heq
  have htexts := commaSeparated_inj (hshown h) (hshown h') heq
  have hnames := List.map_injective_iff.mpr (fun _ _ => String.toList_inj.mp) htexts
  rw [shownNames_inj hne hne' hnames]

/-! ## Objects -/

/-- Entries under the same keys whose documents are told apart. -/
abbrev EntriesToldApart (depth : Nat) : Entries → Entries → Prop :=
  List.Forall₂ fun e e' => e.1 = e'.1 ∧ ToldApart depth e.2 e'.2

/-- Whatever follows them, the lines of such entries are the same only if the entries are, and then they end in
one place. -/
theorem EntriesToldApart.append_inj {es es' : Entries} (h : EntriesToldApart depth es es')
    {rest rest' : List Char} (heq : write depth es ++ rest = write depth es' ++ rest') :
    es = es' ∧ rest = rest' := by
  induction h with
  | nil => exact ⟨rfl, heq⟩
  | @cons e e' es es' hfirst _ ih =>
    obtain ⟨key, d⟩ := e
    obtain ⟨key', d'⟩ := e'
    obtain ⟨hkey, htold⟩ := hfirst
    obtain rfl : key = key' := hkey
    -- both lines begin with the same blanks and the same key
    simp only [write, List.append_assoc, List.append_cancel_left_eq, List.cons_append, List.cons.injEq,
      true_and] at heq
    obtain ⟨rfl, hlines⟩ := htold _ _ heq
    obtain ⟨rfl, hrest⟩ := ih hlines
    exact ⟨rfl, hrest⟩

/-- Two objects are told apart if the documents under their keys are. -/
theorem toldApart_object {es es' : Entries} (h : EntriesToldApart (depth + 1) es es') :
    ToldApart depth (.object es) (.object es') := by
  intro rest rest' heq
  simp only [afterKey, List.cons_append, List.cons.injEq, true_and] at heq
  obtain ⟨rfl, hrest⟩ := h.append_inj heq
  exact ⟨rfl, hrest⟩

/-- Entries whose documents are told apart are equal if their outlines are. -/
theorem outline_inj {es es' : Entries} (h : EntriesToldApart 0 es es') (heq : es.outline = es'.outline) :
    es = es' := by
  have hlines : write 0 es ++ [] = write 0 es' ++ [] := by
    rw [List.append_nil, List.append_nil]
    exact String.ofList_injective heq
  exact (h.append_inj hlines).1

end ObjectStorage.Outline

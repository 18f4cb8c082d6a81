import Mathlib.Data.List.TakeWhile
import ObjectStorage.Proofs.Document.JsonGrammar
import ObjectStorage.Proofs.Text.Pieces

/-!
# Reading JSON documents

* `readInteger`: an integer, without leading zeros, fraction or exponent.
* `readValue`, `readItems`, `readEntries`: a document, and the items or entries after the first one, up
  to a bound on the calls; a text never needs more than its length.
* `read?`: the document of a whole text, with its entries in the order in which they stand there.
* `EndsNumeral`: what can follow an integer without changing it.
* `reads_of_derives`: what the grammar derives is read as that, whatever follows it.
* `read?_of_derives`: so a text has at most one document, and the reader finds it.
* `read?_json`, `derives_json_iff`: the JSON text of a document is read as that document, and the grammar
  derives it for no other one.
-/

namespace ObjectStorage.Json

open ObjectStorage.Text.Numeral

/-! ## The reader -/

/-- A text less the blanks in front. -/
def skip (cs : List Char) : List Char := cs.dropWhile isSpace

/-- A character that goes on with a number behind its digits. -/
def isNumeralTail (c : Char) : Bool := c = '.' || c = 'e' || c = 'E'

/-- A natural number without leading zeros, fraction and exponent, and what follows it. -/
def readNatural (cs : List Char) : Option (Nat × List Char) :=
  let ds := cs.takeWhile isDigit
  let rest := cs.dropWhile isDigit
  if ds = [] ∨ (ds.head? = some '0' ∧ ds ≠ ['0']) ∨ rest.head?.any isNumeralTail then none
  else some (value ds, rest)

/-- An integer and what follows it. -/
def readInteger : List Char → Option (Int × List Char)
  | '-' :: cs => (readNatural cs).map fun r => (-(r.1 : Int), r.2)
  | cs => (readNatural cs).map fun r => ((r.1 : Int), r.2)

/-- A key with the colon behind it, and what follows that. -/
def readKey (cs : List Char) : Option (String × List Char) :=
  match skip cs with
  | '\x22' :: cs =>
    (readString cs).bind fun k =>
      match skip k.2 with
      | ':' :: rest => some (k.1, rest)
      | _ => none
  | _ => none

mutual

/-- A document and what follows it. -/
def readValue : Nat → List Char → Option (Document × List Char)
  | 0, _ => none
  | bound + 1, cs =>
    match skip cs with
    | 'n' :: 'u' :: 'l' :: 'l' :: rest => some (.null, rest)
    | 't' :: 'r' :: 'u' :: 'e' :: rest => some (.flag true, rest)
    | 'f' :: 'a' :: 'l' :: 's' :: 'e' :: rest => some (.flag false, rest)
    | '\x22' :: rest => (readString rest).map fun r => (.text r.1, r.2)
    | '[' :: rest =>
      match skip rest with
      | ']' :: rest => some (.list [], rest)
      | rest =>
        (readValue bound rest).bind fun d =>
          (readItems bound d.2).map fun ds => (.list (d.1 :: ds.1), ds.2)
    | '\x7b' :: rest =>
      match skip rest with
      | '\x7d' :: rest => some (.object [], rest)
      | rest =>
        (readKey rest).bind fun k =>
          (readValue bound k.2).bind fun d =>
            (readEntries bound d.2).map fun es => (.object ((k.1, d.1) :: es.1), es.2)
    | cs => (readInteger cs).map fun r => (.number r.1, r.2)

/-- The items of a list after the first one, and what follows the closing bracket. -/
def readItems : Nat → List Char → Option (List Document × List Char)
  | 0, _ => none
  | bound + 1, cs =>
    match skip cs with
    | ']' :: rest => some ([], rest)
    | ',' :: rest =>
      (readValue bound rest).bind fun d =>
        (readItems bound d.2).map fun ds => (d.1 :: ds.1, ds.2)
    | _ => none

/-- The entries after the first one, and what follows the closing brace. -/
def readEntries : Nat → List Char → Option (Entries × List Char)
  | 0, _ => none
  | bound + 1, cs =>
    match skip cs with
    | '\x7d' :: rest => some ([], rest)
    | ',' :: rest =>
      (readKey rest).bind fun k =>
        (readValue bound k.2).bind fun d =>
          (readEntries bound d.2).map fun es => ((k.1, d.1) :: es.1, es.2)
    | _ => none

end

/-- The document of a text that holds one and nothing else but blanks. -/
def read? (text : String) : Option Document :=
  match readValue (text.toList.length + 1) text.toList with
  | some (d, rest) => if skip rest = [] then some d else none
  | none => none

/-! ## Blanks -/

theorem skip_of_head {c : Char} (h : isSpace c = false) (cs : List Char) : skip (c :: cs) = c :: cs :=
  List.dropWhile_cons_of_neg (by simp [h])

theorem skip_append {w : List Char} (hw : IsBlank w) (cs : List Char) : skip (w ++ cs) = skip cs :=
  List.dropWhile_append_of_pos hw

theorem skip_skip (cs : List Char) : skip (skip cs) = skip cs := by
  unfold skip
  cases h : cs.dropWhile isSpace with
  | nil => rfl
  | cons c rest =>
    have hc := List.head?_dropWhile_not isSpace cs
    rw [h] at hc
    exact skip_of_head hc rest

theorem readValue_skip (bound : Nat) (cs : List Char) : readValue bound (skip cs) = readValue bound cs := by
  cases bound with
  | zero => rfl
  | succ bound => rw [readValue.eq_2, readValue.eq_2, skip_skip]

theorem readKey_skip (cs : List Char) : readKey (skip cs) = readKey cs := by
  rw [readKey, readKey, skip_skip]

theorem readValue_append {w : List Char} (hw : IsBlank w) (bound : Nat) (cs : List Char) :
    readValue bound (w ++ cs) = readValue bound cs := by
  rw [← readValue_skip, skip_append hw, readValue_skip]

/-! ## Integers -/

/-- What can follow an integer without changing it. -/
def EndsNumeral (cs : List Char) : Prop :=
  ∀ c ∈ cs.head?, isDigit c = false ∧ isNumeralTail c = false

theorem endsNumeral_cons {c : Char} (h : isDigit c = false ∧ isNumeralTail c = false)
    (cs : List Char) : EndsNumeral (c :: cs) := by
  intro c' hc'
  obtain rfl := Option.some.inj hc'
  exact h

theorem EndsNumeral.append {w cs : List Char} (hw : IsBlank w) (h : EndsNumeral cs) :
    EndsNumeral (w ++ cs) := by
  cases w with
  | nil => exact h
  | cons c w =>
    have hspace : isSpace c = true := hw c List.mem_cons_self
    refine endsNumeral_cons ?_ (w ++ cs)
    simp only [isSpace, Bool.or_eq_true, decide_eq_true_eq] at hspace
    rcases hspace with ((rfl | rfl) | rfl) | rfl <;> decide

theorem readNatural_append {n : Nat} {cs rest : List Char} (hn : IsNatural n cs)
    (h : EndsNumeral rest) : readNatural (cs ++ rest) = some (n, rest) := by
  have hstop : rest.takeWhile isDigit = [] ∧ rest.dropWhile isDigit = rest := by
    cases rest with
    | nil => exact ⟨rfl, rfl⟩
    | cons c rest =>
      have hc := (h c rfl).1
      exact ⟨List.takeWhile_cons_of_neg (by simp [hc]), List.dropWhile_cons_of_neg (by simp [hc])⟩
  have hzero : ¬ (cs.head? = some '0' ∧ cs ≠ ['0']) := fun hz => hz.2 (hn.leading hz.1)
  have htail : rest.head?.any isNumeralTail = false := by
    cases rest with
    | nil => rfl
    | cons c rest => exact (h c rfl).2
  unfold readNatural
  rw [List.takeWhile_append_of_pos hn.isDigit, List.dropWhile_append_of_pos hn.isDigit, hstop.1,
    hstop.2, List.append_nil]
  simp [hn.ne_nil, hzero, htail, hn.value_eq]

/-- The characters with which blanks, brackets and documents other than numbers begin. -/
def marks : List Char :=
  [' ', '\n', '\r', '\t', ']', '\x7d', 'n', 't', 'f', '\x22', '[', '\x7b']

/-- An integer begins with none of these. -/
theorem IsInteger.exists_cons {n : Int} {cs : List Char} (h : IsInteger n cs) :
    ∃ c rest, cs = c :: rest ∧ c ∉ marks := by
  cases h with
  | minus h => exact ⟨_, _, rfl, by decide⟩
  | natural h =>
    obtain ⟨c, rest, rfl⟩ := List.exists_cons_of_ne_nil h.ne_nil
    exact ⟨c, rest, rfl, Text.not_mem_of_all (by decide) (h.isDigit c List.mem_cons_self)⟩

theorem readInteger_append {n : Int} {cs rest : List Char} (hn : IsInteger n cs)
    (h : EndsNumeral rest) : readInteger (cs ++ rest) = some (n, rest) := by
  cases hn with
  | minus hn =>
    rw [List.cons_append, readInteger, readNatural_append hn h]
    rfl
  | natural hn =>
    obtain ⟨c, cs, rfl⟩ := List.exists_cons_of_ne_nil hn.ne_nil
    have hc : c ≠ '-' := by
      rintro rfl
      exact absurd (hn.isDigit '-' List.mem_cons_self) (by decide)
    have hread := readNatural_append hn h
    rw [List.cons_append] at hread ⊢
    rw [readInteger.eq_2 _ fun _ h => hc (List.cons.inj h).1, hread]
    rfl

/-! ## The first character -/

/-- A value begins with no blank and no closing bracket. -/
theorem Derives.exists_cons {d : Document} {cs : List Char} (h : Derives (.value d) cs) :
    ∃ c rest, cs = c :: rest ∧ isSpace c = false ∧ c ≠ ']' := by
  cases h with
  | number h =>
    obtain ⟨c, rest, hcs, hc⟩ := h.exists_cons
    simp only [marks, List.mem_cons, not_or] at hc
    exact ⟨c, rest, hcs, by simp [isSpace, hc], hc.2.2.2.2.1⟩
  | text h =>
    obtain ⟨body, -, rfl⟩ := h
    exact ⟨_, _, rfl, by decide⟩
  | _ => exact ⟨_, _, rfl, by decide⟩

theorem Derives.skip_element_ne {d : Document} {cs : List Char} (h : Derives (.element d) cs)
    (rest tail : List Char) : skip (cs ++ rest) ≠ ']' :: tail := by
  cases h with
  | element hv h hw =>
    obtain ⟨c, cs, rfl, hspace, hc⟩ := h.exists_cons
    rw [List.append_assoc, skip_append hv, List.cons_append, List.cons_append, skip_of_head hspace]
    exact fun heq => hc (List.cons.inj heq).1

theorem Derives.skip_items_ne {ds : List Document} {cs : List Char} (h : Derives (.items ds) cs)
    (rest tail : List Char) : skip (cs ++ rest) ≠ ']' :: tail := by
  cases h with
  | lastItem h => exact h.skip_element_ne rest tail
  | item h hrest =>
    rw [List.append_assoc]
    exact h.skip_element_ne _ tail

theorem IsString.skip_append {k : String} {v key : List Char} (hv : IsBlank v)
    (hkey : IsString k key) (rest : List Char) : skip (v ++ (key ++ rest)) = key ++ rest := by
  obtain ⟨body, -, rfl⟩ := hkey
  rw [Json.skip_append hv]
  exact skip_of_head (by decide) _

theorem Derives.skip_entries_ne {es : Entries} {cs : List Char} (h : Derives (.entries es) cs)
    (rest tail : List Char) : skip (cs ++ rest) ≠ '\x7d' :: tail := by
  cases h with
  | lastEntry hv hkey hw h =>
    rw [List.append_assoc, List.append_assoc, hkey.skip_append hv]
    obtain ⟨body, -, rfl⟩ := hkey
    exact fun heq => absurd (List.cons.inj heq).1 (by decide)
  | entry hv hkey hw h hrest =>
    rw [List.append_assoc, List.append_assoc, hkey.skip_append hv]
    obtain ⟨body, -, rfl⟩ := hkey
    exact fun heq => absurd (List.cons.inj heq).1 (by decide)

/-! ## Documents -/

variable {bound : Nat} {d : Document} {inner mid rest : List Char}

theorem readKey_append {k : String} {v key w : List Char} (hv : IsBlank v) (hkey : IsString k key)
    (hw : IsBlank w) (rest : List Char) :
    readKey (v ++ (key ++ (w ++ ':' :: rest))) = some (k, rest) := by
  rw [readKey, hkey.skip_append hv]
  obtain ⟨body, hbody, rfl⟩ := hkey
  have hcolon : skip (w ++ ':' :: rest) = ':' :: rest := by
    rw [skip_append hw]
    exact skip_of_head (by decide) rest
  show (readString (body ++ ['\x22'] ++ (w ++ ':' :: rest))).bind _ = _
  rw [List.append_assoc, List.singleton_append, readString_characters hbody]
  show (match skip (w ++ ':' :: rest) with
    | ':' :: rest => some (k, rest)
    | _ => none) = _
  rw [hcolon]
  rfl

theorem readValue_list {ds : List Document} (hopen : ∀ tail, skip inner ≠ ']' :: tail)
    (hvalue : readValue bound inner = some (d, mid)) (hitems : readItems bound mid = some (ds, rest)) :
    readValue (bound + 1) ('[' :: inner) = some (.list (d :: ds), rest) := by
  rw [← readValue_skip] at hvalue
  rw [readValue.eq_2, skip_of_head (by decide)]
  show (match skip inner with
    | ']' :: rest => some (Document.list [], rest)
    | inner => (readValue bound inner).bind fun d =>
        (readItems bound d.2).map fun (ds, rest) => (Document.list (d.1 :: ds), rest)) = _
  split
  · next tail heq => exact absurd heq (hopen tail)
  · simp [hvalue, hitems]

theorem readValue_emptyList {w : List Char} (hw : IsBlank w) (rest : List Char) :
    readValue (bound + 1) ('[' :: (w ++ ']' :: rest)) = some (.list [], rest) := by
  have hclose : skip (w ++ ']' :: rest) = ']' :: rest :=
    (skip_append hw _).trans (skip_of_head (by decide) rest)
  rw [readValue.eq_2, skip_of_head (by decide)]
  simp only [hclose]

theorem readItems_close {w : List Char} (hw : IsBlank w) (rest : List Char) :
    readItems (bound + 1) (w ++ ']' :: rest) = some ([], rest) := by
  rw [readItems.eq_2, skip_append hw, skip_of_head (by decide)]
  rfl

theorem readItems_comma {w : List Char} (hw : IsBlank w) {ds : List Document}
    (hvalue : readValue bound inner = some (d, mid)) (hitems : readItems bound mid = some (ds, rest)) :
    readItems (bound + 1) (w ++ ',' :: inner) = some (d :: ds, rest) := by
  rw [readItems.eq_2, skip_append hw, skip_of_head (by decide)]
  simp [hvalue, hitems]

section Entries

variable {value : List Char} {k : String} {es : Entries}

theorem readValue_object (hopen : ∀ tail, skip inner ≠ '\x7d' :: tail)
    (hkey : readKey inner = some (k, value)) (hvalue : readValue bound value = some (d, mid))
    (hentries : readEntries bound mid = some (es, rest)) :
    readValue (bound + 1) ('\x7b' :: inner) = some (.object ((k, d) :: es), rest) := by
  rw [← readKey_skip] at hkey
  rw [readValue.eq_2, skip_of_head (by decide)]
  show (match skip inner with
    | '\x7d' :: rest => some (Document.object [], rest)
    | inner => (readKey inner).bind fun k => (readValue bound k.2).bind fun d =>
        (readEntries bound d.2).map fun (es, rest) => (Document.object ((k.1, d.1) :: es), rest)) = _
  split
  · next tail heq => exact absurd heq (hopen tail)
  · simp [hkey, hvalue, hentries]

theorem readValue_emptyObject {w : List Char} (hw : IsBlank w) (rest : List Char) :
    readValue (bound + 1) ('\x7b' :: (w ++ '\x7d' :: rest)) = some (.object [], rest) := by
  have hclose : skip (w ++ '\x7d' :: rest) = '\x7d' :: rest :=
    (skip_append hw _).trans (skip_of_head (by decide) rest)
  rw [readValue.eq_2, skip_of_head (by decide)]
  simp only [hclose]

theorem readEntries_close {w : List Char} (hw : IsBlank w) (rest : List Char) :
    readEntries (bound + 1) (w ++ '\x7d' :: rest) = some ([], rest) := by
  rw [readEntries.eq_2, skip_append hw, skip_of_head (by decide)]
  rfl

theorem readEntries_comma {w : List Char} (hw : IsBlank w) (hkey : readKey inner = some (k, value))
    (hvalue : readValue bound value = some (d, mid))
    (hentries : readEntries bound mid = some (es, rest)) :
    readEntries (bound + 1) (w ++ ',' :: inner) = some ((k, d) :: es, rest) := by
  rw [readEntries.eq_2, skip_append hw, skip_of_head (by decide)]
  simp [hkey, hvalue, hentries]

end Entries

/-! ## What the grammar derives is read -/

/-- What the reader makes of a phrase, whatever follows it. -/
def Reads : Phrase → List Char → Prop
  | .value d, cs => ∀ bound rest, cs.length ≤ bound → EndsNumeral rest →
      readValue (bound + 1) (cs ++ rest) = some (d, rest)
  | .element d, cs => ∀ bound rest, cs.length ≤ bound → EndsNumeral rest →
      ∃ w, IsBlank w ∧ readValue (bound + 1) (cs ++ rest) = some (d, w ++ rest)
  | .items ds, cs => ∀ bound rest, cs.length ≤ bound →
      ∃ d tail mid, ds = d :: tail ∧ readValue (bound + 1) (cs ++ ']' :: rest) = some (d, mid) ∧
        readItems (bound + 1) mid = some (tail, rest)
  | .entries es, cs => ∀ bound rest, cs.length ≤ bound →
      ∃ k d tail value mid, es = (k, d) :: tail ∧
        readKey (cs ++ '\x7d' :: rest) = some (k, value) ∧
          readValue (bound + 1) value = some (d, mid) ∧
            readEntries (bound + 1) mid = some (tail, rest)

/-- What the grammar derives is read as that, by induction on the derivation. -/
theorem reads_of_derives {p : Phrase} {cs : List Char} (h : Derives p cs) : Reads p cs := by
  induction h with
  | null => exact fun _ _ _ _ => rfl
  | flagTrue => exact fun _ _ _ _ => rfl
  | flagFalse => exact fun _ _ _ _ => rfl
  | number hn =>
    intro bound rest _ hrest
    have hread := readInteger_append hn hrest
    obtain ⟨c, cs, rfl, hc⟩ := hn.exists_cons
    rw [List.cons_append] at hread ⊢
    simp only [marks, List.mem_cons, not_or] at hc
    rw [readValue.eq_2, skip_of_head (by simp [isSpace, hc])]
    split <;> simp_all
  | text hs =>
    intro bound rest _ _
    obtain ⟨body, hbody, rfl⟩ := hs
    rw [List.cons_append, List.append_assoc, readValue.eq_2, skip_of_head (by decide)]
    show (readString (body ++ '\x22' :: rest)).map _ = _
    rw [readString_characters hbody]
    rfl
  | emptyList hw =>
    intro bound rest _ _
    rw [List.cons_append, List.append_assoc]
    exact readValue_emptyList hw rest
  | list h ih =>
    intro bound rest hlen _
    simp only [List.length_cons, List.length_append] at hlen
    obtain ⟨bound, rfl⟩ : ∃ b, bound = b + 1 := ⟨bound - 1, by omega⟩
    obtain ⟨d, ds, mid, rfl, hvalue, hitems⟩ := ih bound rest (by omega)
    rw [List.cons_append, List.append_assoc]
    exact readValue_list (h.skip_items_ne _) hvalue hitems
  | emptyObject hw =>
    intro bound rest _ _
    rw [List.cons_append, List.append_assoc]
    exact readValue_emptyObject hw rest
  | object h ih =>
    intro bound rest hlen _
    simp only [List.length_cons, List.length_append] at hlen
    obtain ⟨bound, rfl⟩ : ∃ b, bound = b + 1 := ⟨bound - 1, by omega⟩
    obtain ⟨k, d, es, value, mid, rfl, hkey, hvalue, hentries⟩ := ih bound rest (by omega)
    rw [List.cons_append, List.append_assoc]
    exact readValue_object (h.skip_entries_ne _) hkey hvalue hentries
  | @element d v cs w hv _ hw ih =>
    intro bound rest hlen hrest
    simp only [List.length_append] at hlen
    refine ⟨w, hw, ?_⟩
    rw [List.append_assoc, List.append_assoc, readValue_append hv]
    exact ih bound (w ++ rest) (by omega) (hrest.append hw)
  | lastItem _ ih =>
    intro bound rest hlen
    obtain ⟨w, hw, hvalue⟩ := ih bound (']' :: rest) hlen (endsNumeral_cons (by decide) rest)
    exact ⟨_, _, _, rfl, hvalue, readItems_close hw rest⟩
  | @item d ds cs tail _ _ ih ihtail =>
    intro bound rest hlen
    simp only [List.length_cons, List.length_append] at hlen
    obtain ⟨bound, rfl⟩ : ∃ b, bound = b + 1 := ⟨bound - 1, by omega⟩
    obtain ⟨w, hw, hvalue⟩ := ih (bound + 1) (',' :: (tail ++ ']' :: rest)) (by omega)
      (endsNumeral_cons (by decide) _)
    obtain ⟨d', ds', mid, rfl, hvalue', hitems⟩ := ihtail bound rest (by omega)
    rw [List.append_assoc, List.cons_append]
    exact ⟨_, _, _, rfl, hvalue, readItems_comma hw hvalue' hitems⟩
  | @lastEntry k d v key w cs hv hkey hw _ ih =>
    intro bound rest hlen
    simp only [List.length_cons, List.length_append] at hlen
    obtain ⟨u, hu, hvalue⟩ := ih bound ('\x7d' :: rest) (by omega) (endsNumeral_cons (by decide) rest)
    rw [List.append_assoc, List.append_assoc, List.append_assoc, List.cons_append]
    exact ⟨_, _, _, _, _, rfl, readKey_append hv hkey hw _, hvalue, readEntries_close hu rest⟩
  | @entry k d es v key w cs tail hv hkey hw _ _ ih ihtail =>
    intro bound rest hlen
    simp only [List.length_cons, List.length_append] at hlen
    obtain ⟨bound, rfl⟩ : ∃ b, bound = b + 1 := ⟨bound - 1, by omega⟩
    obtain ⟨u, hu, hvalue⟩ := ih (bound + 1) (',' :: (tail ++ '\x7d' :: rest)) (by omega)
      (endsNumeral_cons (by decide) _)
    obtain ⟨k', d', es', value, mid, rfl, hkey', hvalue', hentries⟩ := ihtail bound rest (by omega)
    rw [List.append_assoc, List.append_assoc, List.append_assoc, List.cons_append, List.append_assoc,
      List.cons_append]
    exact ⟨_, _, _, _, _, rfl, readKey_append hv hkey hw _, hvalue,
      readEntries_comma hu hkey' hvalue' hentries⟩

/-- A text for which the grammar derives a document is read as that document. -/
theorem read?_of_derives {text : String} (h : Derives (.element d) text.toList) :
    read? text = some d := by
  obtain ⟨w, hw, hread⟩ := reads_of_derives h text.toList.length [] le_rfl fun _ h => nomatch h
  rw [List.append_nil, List.append_nil] at hread
  have hend : skip w = [] := by rw [← List.append_nil w, skip_append hw]; rfl
  rw [read?, hread]
  exact if_pos hend

/-- The JSON text of a document is read as that document. -/
theorem read?_json (d : Document) : read? d.json = some d := read?_of_derives (derives_json d)

/-- The grammar derives the JSON text of a document for that document alone. -/
theorem derives_json_iff {d d' : Document} : Derives (.element d') d.json.toList ↔ d' = d := by
  constructor
  · intro h
    have hread := (read?_of_derives h).symm.trans (read?_json d)
    exact Option.some.inj hread
  · rintro rfl
    exact derives_json d'

end ObjectStorage.Json

import ObjectStorage.Proofs.Document.JsonString

/-!
# The grammar of JSON documents

* `IsNatural`, `IsInteger`: numerals without leading zeros, fraction and exponent.
* `Phrase`, `Derives`: what a stretch of text stands for, with one rule for each form; blanks may stand
  around every value and every mark.
* `derives_write`: a written document is a value of the grammar.
* `derives_json`: the JSON text of a document is derived for that document.
-/

namespace ObjectStorage.Json

open ObjectStorage.Text.Numeral

/-! ## Blanks and integers -/

/-- A blank between two parts of a document. -/
def isSpace (c : Char) : Bool := c = ' ' || c = '\n' || c = '\r' || c = '\t'

/-- A text of blanks. -/
def IsBlank (cs : List Char) : Prop := ∀ c ∈ cs, isSpace c = true

/-- The digits of a natural number; a zero stands in front of no other digit. -/
structure IsNatural (n : Nat) (cs : List Char) : Prop where
  ne_nil : cs ≠ []
  isDigit : ∀ c ∈ cs, isDigit c = true
  leading : cs.head? = some '0' → cs = ['0']
  value_eq : value cs = n

/-- The digits of an integer, with a minus in front of a negative one. -/
inductive IsInteger : Int → List Char → Prop
  | natural {n : Nat} {cs : List Char} (h : IsNatural n cs) : IsInteger n cs
  | minus {n : Nat} {cs : List Char} (h : IsNatural n cs) : IsInteger (-n) ('-' :: cs)

/-! ## Documents -/

/-- What a stretch of text stands for: a value; a value among blanks; the items of a list or the entries
of an object, one at least. -/
inductive Phrase
  | value (d : Document)
  | element (d : Document)
  | items (ds : List Document)
  | entries (es : Entries)

/-- The rules of the grammar. -/
inductive Derives : Phrase → List Char → Prop
  | null : Derives (.value .null) ['n', 'u', 'l', 'l']
  | flagTrue : Derives (.value (.flag true)) ['t', 'r', 'u', 'e']
  | flagFalse : Derives (.value (.flag false)) ['f', 'a', 'l', 's', 'e']
  | number {n : Int} {cs : List Char} (h : IsInteger n cs) : Derives (.value (.number n)) cs
  | text {s : String} {cs : List Char} (h : IsString s cs) : Derives (.value (.text s)) cs
  | emptyList {w : List Char} (hw : IsBlank w) : Derives (.value (.list [])) ('[' :: (w ++ [']']))
  | list {ds : List Document} {cs : List Char} (h : Derives (.items ds) cs) :
      Derives (.value (.list ds)) ('[' :: (cs ++ [']']))
  | emptyObject {w : List Char} (hw : IsBlank w) :
      Derives (.value (.object [])) ('\x7b' :: (w ++ ['\x7d']))
  | object {es : Entries} {cs : List Char} (h : Derives (.entries es) cs) :
      Derives (.value (.object es)) ('\x7b' :: (cs ++ ['\x7d']))
  | element {d : Document} {v cs w : List Char} (hv : IsBlank v) (h : Derives (.value d) cs)
      (hw : IsBlank w) : Derives (.element d) (v ++ (cs ++ w))
  | lastItem {d : Document} {cs : List Char} (h : Derives (.element d) cs) :
      Derives (.items [d]) cs
  | item {d : Document} {ds : List Document} {cs rest : List Char} (h : Derives (.element d) cs)
      (hrest : Derives (.items ds) rest) : Derives (.items (d :: ds)) (cs ++ ',' :: rest)
  | lastEntry {k : String} {d : Document} {v key w cs : List Char} (hv : IsBlank v)
      (hkey : IsString k key) (hw : IsBlank w) (h : Derives (.element d) cs) :
      Derives (.entries [(k, d)]) (v ++ (key ++ (w ++ ':' :: cs)))
  | entry {k : String} {d : Document} {es : Entries} {v key w cs rest : List Char} (hv : IsBlank v)
      (hkey : IsString k key) (hw : IsBlank w) (h : Derives (.element d) cs)
      (hrest : Derives (.entries es) rest) :
      Derives (.entries ((k, d) :: es)) (v ++ (key ++ (w ++ ':' :: (cs ++ ',' :: rest))))

/-! ## What is written -/

theorem isBlank_nil : IsBlank [] := fun _ h => nomatch h

theorem isBlank_space : IsBlank [' '] := by
  intro c hc
  rw [List.mem_singleton.mp hc]
  rfl

theorem isBlank_newline (depth : Nat) : IsBlank (newline depth) := by
  intro c hc
  rcases List.mem_cons.mp hc with rfl | hc
  · rfl
  · rw [(List.mem_replicate.mp hc).2]
    rfl

theorem isNatural_digits (n : Nat) : IsNatural n (digits n) where
  ne_nil := digits_ne_nil n
  isDigit _ := isDigit_of_mem_digits
  leading h := by
    rw [head?_digits h]
    rfl
  value_eq := value_digits n

theorem isInteger_integer (n : Int) : IsInteger n (integer n) := by
  cases n with
  | ofNat n => exact .natural (isNatural_digits n)
  | negSucc n => exact .minus (isNatural_digits (n + 1))

theorem Derives.element_newline {d : Document} {cs : List Char} (h : Derives (.value d) cs)
    (depth : Nat) {w : List Char} (hw : IsBlank w) :
    Derives (.element d) (newline depth ++ (cs ++ w)) :=
  .element (isBlank_newline depth) h hw

mutual

/-- A written document is a value of the grammar. -/
theorem derives_write (depth : Nat) : (d : Document) → Derives (.value d) (write depth d)
  | .null => .null
  | .flag true => .flagTrue
  | .flag false => .flagFalse
  | .number n => .number (isInteger_integer n)
  | .text s => .text (isString_string s)
  | .list [] => .emptyList isBlank_nil
  | .list (d :: ds) => by
    have hitems := derives_writeItems (depth + 1) depth ds (derives_write (depth + 1) d)
    simpa [write] using Derives.list hitems
  | .object [] => .emptyObject isBlank_nil
  | .object ((k, d) :: es) => by
    have hentries := derives_writeEntries (depth + 1) depth es k (derives_write (depth + 1) d)
    simpa [write] using Derives.object hentries

/-- Written items, the first one and those after it, are items of the grammar. -/
theorem derives_writeItems (depth outer : Nat) (ds : List Document) {d : Document} {cs : List Char}
    (h : Derives (.value d) cs) :
    Derives (.items (d :: ds)) (newline depth ++ (cs ++ (writeItems depth ds ++ newline outer))) :=
  match ds with
  | [] => .lastItem (h.element_newline depth (isBlank_newline outer))
  | d' :: ds => by
    have hrest := derives_writeItems depth outer ds (derives_write depth d')
    simpa [writeItems] using Derives.item (h.element_newline depth isBlank_nil) hrest

/-- Written entries, the first one and those after it, are entries of the grammar. -/
theorem derives_writeEntries (depth outer : Nat) (es : Entries) (k : String) {d : Document}
    {cs : List Char} (h : Derives (.value d) cs) :
    Derives (.entries ((k, d) :: es))
      (newline depth ++ (string k ++ ':' :: ' ' :: (cs ++ (writeEntries depth es ++ newline outer)))) :=
  match es with
  | [] => .lastEntry (isBlank_newline depth) (isString_string k) isBlank_nil
      (.element isBlank_space h (isBlank_newline outer))
  | (k', d') :: es => by
    have hrest := derives_writeEntries depth outer es k' (derives_write depth d')
    have hfirst : Derives (.element d) (' ' :: (cs ++ [])) := .element isBlank_space h isBlank_nil
    simpa [writeEntries] using
      Derives.entry (isBlank_newline depth) (isString_string k) isBlank_nil hfirst hrest

end

/-- The JSON text of a document is derived for that document. -/
theorem derives_json (d : Document) : Derives (.element d) d.json.toList := by
  rw [Document.json, String.toList_ofList]
  exact .element isBlank_nil (derives_write 0 d) (isBlank_newline 0)

end ObjectStorage.Json

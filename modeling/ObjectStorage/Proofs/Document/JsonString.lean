import Mathlib.Tactic.SplitIfs
import ObjectStorage.Document.Json
import ObjectStorage.Proofs.Text.Digits

/-!
# JSON strings

A string is read in two steps, as it is written: first its UTF-16 code units up to the closing mark, then
the characters that these stand for.

* `Character`, `Characters`, `IsString`: the grammar of strings, with the code units that they stand for.
* `characters_escape`, `isString_string`: what is written is such a string.
* `readUnits`: the code units of a string and what follows its closing mark.
* `decodeUnits`: the characters of code units; surrogates stand in pairs.
* `readUnits_characters`, `decodeUnits_units`: both undo what the grammar says.
* `readString_characters`: every string of a text is read as that text.
-/

namespace ObjectStorage.Json

open ObjectStorage.Text.Numeral

/-! ## Escapes -/

/-- The value of a hexadecimal digit in either case. -/
def hexDigit? (c : Char) : Option Nat :=
  if '0' ≤ c ∧ c ≤ '9' then some (c.toNat - '0'.toNat)
  else if 'a' ≤ c ∧ c ≤ 'f' then some (c.toNat - 'a'.toNat + 10)
  else if 'A' ≤ c ∧ c ≤ 'F' then some (c.toNat - 'A'.toNat + 10)
  else none

/-- The code unit of four hexadecimal digits. -/
def readUnit? (a b c d : Char) : Option Nat :=
  match hexDigit? a, hexDigit? b, hexDigit? c, hexDigit? d with
  | some a, some b, some c, some d => some (((a * 16 + b) * 16 + c) * 16 + d)
  | _, _, _, _ => none

/-- The character that a character behind a backslash stands for. -/
def unescape? : Char → Option Char
  | '\x22' => some '\x22'
  | '\\' => some '\\'
  | '/' => some '/'
  | 'b' => some '\x08'
  | 'f' => some '\x0c'
  | 'n' => some '\n'
  | 'r' => some '\r'
  | 't' => some '\t'
  | _ => none

/-! ## The grammar of strings -/

/-- One character between quotation marks, with the code units that it stands for. -/
inductive Character : List Nat → List Char → Prop
  | plain {c : Char} (hmark : c ≠ '\x22') (hslash : c ≠ '\\') (hprint : 0x20 ≤ c.toNat) :
      Character (units c) [c]
  | escaped {c e : Char} (h : unescape? e = some c) : Character (units c) ['\\', e]
  | unit {a b c d : Char} {n : Nat} (h : readUnit? a b c d = some n) :
      Character [n] ['\\', 'u', a, b, c, d]

/-- Any number of characters. -/
inductive Characters : List Nat → List Char → Prop
  | nil : Characters [] []
  | cons {us vs : List Nat} {cs rest : List Char} (h : Character us cs) (hrest : Characters vs rest) :
      Characters (us ++ vs) (cs ++ rest)

/-- Characters between quotation marks whose code units are those of a text. -/
def IsString (s : String) (cs : List Char) : Prop :=
  ∃ body, Characters (s.toList.flatMap units) body ∧ cs = '\x22' :: (body ++ ['\x22'])

theorem Character.one {us : List Nat} {cs : List Char} (h : Character us cs) : Characters us cs := by
  have hone := Characters.cons h .nil
  rwa [List.append_nil, List.append_nil] at hone

theorem Characters.append {us vs : List Nat} {cs rest : List Char} (h : Characters us cs)
    (hrest : Characters vs rest) : Characters (us ++ vs) (cs ++ rest) := by
  induction h with
  | nil => exact hrest
  | cons hc _ ih =>
    rw [List.append_assoc, List.append_assoc]
    exact .cons hc ih

/-! ## What is written -/

variable {c : Char} {cs : List Char} {n : Nat}

theorem hexDigit?_digitChar : ∀ n < 16, hexDigit? n.digitChar = some n := by decide

/-- The four digits of a code unit stand for that unit. -/
theorem character_unit (h : n < 65536) : Character [n] (unit n) := by
  have hdigits : readUnit? (n / 4096).digitChar (n / 256 % 16).digitChar (n / 16 % 16).digitChar
      (n % 16).digitChar = some n := by
    have hsum : (((n / 4096 * 16 + n / 256 % 16) * 16 + n / 16 % 16) * 16 + n % 16) = n := by omega
    rw [readUnit?, hexDigit?_digitChar _ (by omega), hexDigit?_digitChar _ (by omega),
      hexDigit?_digitChar _ (by omega), hexDigit?_digitChar _ (by omega)]
    dsimp only
    rw [hsum]
  rw [unit, hexadecimal_four h]
  exact .unit hdigits

theorem characters_units {ns : List Nat} (h : ∀ n ∈ ns, n < 65536) :
    Characters ns (ns.flatMap unit) := by
  induction ns with
  | nil => exact .nil
  | cons n ns ih =>
    obtain ⟨hn, hns⟩ := List.forall_mem_cons.mp h
    exact .cons (character_unit hn) (ih hns)

/-- Every code unit of a character has four digits. -/
theorem units_lt (h : n ∈ units c) : n < 65536 := by
  have hc : c.toNat < 0x110000 := by
    rcases c.valid with h | ⟨-, h⟩
    · exact Nat.lt_trans h (by decide)
    · exact h
  unfold units at h
  dsimp only at h
  split at h
  · simp only [List.mem_singleton] at h
    omega
  · simp only [List.mem_cons, List.not_mem_nil, or_false] at h
    omega

/-- A character is written behind a backslash, for itself, or by its code units. -/
theorem characters_escape (c : Char) : Characters (units c) (escape c) := by
  unfold escape
  split_ifs with hmark hslash hbackspace hfeed hline hreturn htab hprint
  · exact (Character.escaped (by rw [hmark]; rfl)).one
  · exact (Character.escaped (by rw [hslash]; rfl)).one
  · exact (Character.escaped (by rw [hbackspace]; rfl)).one
  · exact (Character.escaped (by rw [hfeed]; rfl)).one
  · exact (Character.escaped (by rw [hline]; rfl)).one
  · exact (Character.escaped (by rw [hreturn]; rfl)).one
  · exact (Character.escaped (by rw [htab]; rfl)).one
  · rw [Bool.and_eq_true, decide_eq_true_eq] at hprint
    exact (Character.plain hmark hslash hprint.1).one
  · exact characters_units fun n => units_lt

theorem characters_flatMap (text : List Char) :
    Characters (text.flatMap units) (text.flatMap escape) := by
  induction text with
  | nil => exact .nil
  | cons c text ih => exact (characters_escape c).append ih

/-- What is written for a text is a string of that text. -/
theorem isString_string (s : String) : IsString s (string s) :=
  ⟨s.toList.flatMap escape, characters_flatMap s.toList, rfl⟩

/-! ## The reader -/

/-- The code units of a string and what follows its closing mark. Controls stand there only escaped. -/
def readUnits : List Char → Option (List Nat × List Char)
  | [] => none
  | '\x22' :: cs => some ([], cs)
  | '\\' :: 'u' :: a :: b :: c :: d :: cs =>
    match readUnit? a b c d with
    | some n => (readUnits cs).map fun r => (n :: r.1, r.2)
    | none => none
  | '\\' :: c :: cs =>
    match unescape? c with
    | some c => (readUnits cs).map fun r => (units c ++ r.1, r.2)
    | none => none
  | c :: cs => if c.toNat < 0x20 then none else (readUnits cs).map fun r => (units c ++ r.1, r.2)

/-- The characters of code units; surrogates stand in pairs. -/
def decodeUnits : List Nat → Option (List Char)
  | [] => some []
  | m :: ns =>
    if m < 0xD800 ∨ 0xDFFF < m then (decodeUnits ns).map (Char.ofNat m :: ·)
    else
      match ns with
      | [] => none
      | n :: ns =>
        if m < 0xDC00 ∧ 0xDC00 ≤ n ∧ n < 0xE000 then
          (decodeUnits ns).map (Char.ofNat (0x10000 + (m - 0xD800) * 0x400 + (n - 0xDC00)) :: ·)
        else none

/-- A text and what follows its closing mark. -/
def readString (cs : List Char) : Option (String × List Char) :=
  match readUnits cs with
  | some (ns, rest) => (decodeUnits ns).map fun cs => (String.ofList cs, rest)
  | none => none

/-! ## What is read -/

/-- A character of the grammar is read as its code units. -/
theorem readUnits_character {us : List Nat} (h : Character us cs) (rest : List Char) :
    readUnits (cs ++ rest) = (readUnits rest).map fun r => (us ++ r.1, r.2) := by
  cases h with
  | @plain c hmark hslash hprint =>
    show readUnits (c :: rest) = _
    rw [readUnits.eq_5 _ _ hmark (fun _ _ _ _ _ hc _ => hslash hc) fun _ _ hc _ => hslash hc,
      if_neg (Nat.not_lt.mpr hprint)]
  | @escaped c e he =>
    have hu : e ≠ 'u' := by
      rintro rfl
      cases he
    show readUnits ('\\' :: e :: rest) = _
    rw [readUnits.eq_4 _ _ fun _ _ _ _ _ he _ => hu he, he]
  | unit hn =>
    simp only [List.cons_append, List.nil_append, readUnits, hn]

/-- The characters up to the closing mark are read as their code units. -/
theorem readUnits_characters {us : List Nat} (h : Characters us cs) (rest : List Char) :
    readUnits (cs ++ '\x22' :: rest) = some (us, rest) := by
  induction h with
  | nil => rfl
  | cons hc _ ih =>
    rw [List.append_assoc, readUnits_character hc, ih]
    rfl

/-- The code units of a character are read as that character. -/
theorem decodeUnits_units (c : Char) (ns : List Nat) :
    decodeUnits (units c ++ ns) = (decodeUnits ns).map (c :: ·) := by
  have hvalid : c.toNat < 0xD800 ∨ 0xDFFF < c.toNat ∧ c.toNat < 0x110000 := c.valid
  unfold units
  dsimp only
  split
  · next hsmall =>
    have hwhole : c.toNat < 0xD800 ∨ 0xDFFF < c.toNat := hvalid.imp_right And.left
    rw [List.singleton_append, decodeUnits.eq_def]
    dsimp only
    rw [if_pos hwhole, Char.ofNat_toNat]
  · next hlarge =>
    -- the two surrogates of a character outside the basic plane
    obtain ⟨m, hm⟩ : ∃ m, c.toNat - 0x10000 = m := ⟨_, rfl⟩
    have hsum : 0x10000 + (0xD800 + m / 0x400 - 0xD800) * 0x400 + (0xDC00 + m % 0x400 - 0xDC00) =
        c.toNat := by omega
    have hhigh : ¬ (0xD800 + m / 0x400 < 0xD800 ∨ 0xDFFF < 0xD800 + m / 0x400) := by omega
    have hpair : 0xD800 + m / 0x400 < 0xDC00 ∧ 0xDC00 ≤ 0xDC00 + m % 0x400 ∧
        0xDC00 + m % 0x400 < 0xE000 := by omega
    rw [hm]
    simp only [List.cons_append, List.nil_append, decodeUnits, if_neg hhigh, if_pos hpair, hsum,
      Char.ofNat_toNat]

theorem decodeUnits_flatMap (text : List Char) : decodeUnits (text.flatMap units) = some text := by
  induction text with
  | nil => rfl
  | cons c text ih =>
    rw [List.flatMap_cons, decodeUnits_units, ih]
    rfl

/-- The characters of a text are read as that text. -/
theorem readString_characters {s : String} (h : Characters (s.toList.flatMap units) cs)
    (rest : List Char) : readString (cs ++ '\x22' :: rest) = some (s, rest) := by
  rw [readString, readUnits_characters h]
  dsimp only
  rw [decodeUnits_flatMap, Option.map_some, String.ofList_toList]

end ObjectStorage.Json

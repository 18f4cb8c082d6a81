import ObjectStorage.Proofs.Document.JsonReader
import ObjectStorage.Proofs.Document.Numbers

/-!
# Printed JSON

* `Json.IsPlain`, `PlainText`: the printable characters of ASCII and the line feed, and texts of these.
* `Json.plainText_escape`, `plainText_integer`, `plainText_write`: nothing else is written, whatever the
  texts of a document hold.
* `Json.write_object`: a written object ends with its closing brace.
* `Entries.print_json_eq_ok_iff`, `eq_of_print_json`: which text a tree is printed as, and that no other
  tree is printed as that text.
* `Entries.print_json`: what is printed is plain, ends with one line feed, and stands for the printed
  document alone.
-/

namespace ObjectStorage

open ObjectStorage.Text.Numeral

namespace Json

/-! ## Plain characters -/

/-- A printable character of ASCII, or a line feed. -/
def IsPlain (c : Char) : Prop := c = '\n' ∨ (0x20 ≤ c.toNat ∧ c.toNat ≤ 0x7E)

/-- A text of plain characters. -/
def PlainText (cs : List Char) : Prop := ∀ c ∈ cs, IsPlain c

instance : DecidablePred IsPlain := fun c =>
  inferInstanceAs (Decidable (c = '\n' ∨ (0x20 ≤ c.toNat ∧ c.toNat ≤ 0x7E)))

instance : DecidablePred PlainText := fun cs => List.decidableBAll IsPlain cs

section Texts

variable {c : Char} {n : Nat} {cs rest : List Char}

theorem plainText_append : PlainText (cs ++ rest) ↔ PlainText cs ∧ PlainText rest :=
  List.forall_mem_append

theorem plainText_cons : PlainText (c :: cs) ↔ IsPlain c ∧ PlainText cs := List.forall_mem_cons

theorem isPlain_digitChar : ∀ n < 16, IsPlain n.digitChar := by decide

theorem plainText_unit (h : n < 65536) : PlainText (unit n) := by
  rw [unit, hexadecimal_four h]
  simp only [plainText_cons]
  exact ⟨by decide, by decide, isPlain_digitChar _ (by omega), isPlain_digitChar _ (by omega),
    isPlain_digitChar _ (by omega), isPlain_digitChar _ (by omega), by decide⟩

/-- Whatever a character is, it is written by plain ones. -/
theorem plainText_escape (c : Char) : PlainText (escape c) := by
  unfold escape
  split_ifs with hmark hslash hbackspace hfeed hline hreturn htab hprint
  iterate 7 decide
  · rw [Bool.and_eq_true, decide_eq_true_eq, decide_eq_true_eq] at hprint
    intro e he
    rw [List.mem_singleton.mp he]
    exact .inr hprint
  · intro e he
    obtain ⟨n, hn, he⟩ := List.mem_flatMap.mp he
    exact plainText_unit (units_lt hn) e he

theorem plainText_string (s : String) : PlainText (string s) := by
  have hbody : PlainText (s.toList.flatMap escape) := by
    intro e he
    obtain ⟨c, -, he⟩ := List.mem_flatMap.mp he
    exact plainText_escape c e he
  rw [string, plainText_append, plainText_cons]
  exact ⟨⟨by decide, hbody⟩, by decide⟩

theorem plainText_digits (n : Nat) : PlainText (digits n) := by
  intro c hc
  have hdigit := isDigit_of_mem_digits hc
  simp only [isDigit, Char.isDigit, ge_iff_le, Bool.and_eq_true, decide_eq_true_eq] at hdigit
  have hlow : 48 ≤ c.toNat := hdigit.1
  have hhigh : c.toNat ≤ 57 := hdigit.2
  exact .inr ⟨by omega, by omega⟩

theorem plainText_integer (n : Int) : PlainText (integer n) := by
  cases n with
  | ofNat n => exact plainText_digits n
  | negSucc n => exact plainText_cons.mpr ⟨by decide, plainText_digits (n + 1)⟩

theorem plainText_newline (depth : Nat) : PlainText (newline depth) := by
  refine plainText_cons.mpr ⟨by decide, fun c hc => ?_⟩
  rw [(List.mem_replicate.mp hc).2]
  decide

end Texts

/-! ## Documents -/

mutual

/-- A written document is plain. -/
theorem plainText_write (depth : Nat) : (d : Document) → PlainText (write depth d)
  | .null => show PlainText "null".toList by decide
  | .flag true => show PlainText "true".toList by decide
  | .flag false => show PlainText "false".toList by decide
  | .number n => plainText_integer n
  | .text s => plainText_string s
  | .list [] => show PlainText ['[', ']'] by decide
  | .list (d :: ds) => by
    simp only [write, plainText_append, plainText_cons]
    exact ⟨⟨⟨⟨⟨by decide, plainText_newline _⟩, plainText_write _ d⟩, plainText_writeItems _ ds⟩,
      plainText_newline depth⟩, by decide⟩
  | .object [] => show PlainText ['\x7b', '\x7d'] by decide
  | .object ((k, d) :: es) => by
    simp only [write, plainText_append, plainText_cons]
    exact ⟨⟨⟨⟨⟨⟨by decide, plainText_newline _⟩, plainText_string k⟩, by decide, by decide,
      plainText_write _ d⟩, plainText_writeEntries _ es⟩, plainText_newline depth⟩, by decide⟩

theorem plainText_writeItems (depth : Nat) :
    (ds : List Document) → PlainText (writeItems depth ds)
  | [] => fun _ h => nomatch h
  | d :: ds => by
    simp only [writeItems, plainText_append, plainText_cons]
    exact ⟨⟨⟨by decide, plainText_newline depth⟩, plainText_write depth d⟩,
      plainText_writeItems depth ds⟩

theorem plainText_writeEntries (depth : Nat) :
    (es : Entries) → PlainText (writeEntries depth es)
  | [] => fun _ h => nomatch h
  | (k, d) :: es => by
    simp only [writeEntries, plainText_append, plainText_cons]
    exact ⟨⟨⟨⟨by decide, plainText_newline depth⟩, plainText_string k⟩, by decide, by decide,
      plainText_write depth d⟩, plainText_writeEntries depth es⟩

end

/-- A written object ends with its closing brace. -/
theorem write_object (depth : Nat) (es : Entries) :
    ∃ body, write depth (.object es) = body ++ ['\x7d'] :=
  match es with
  | [] => ⟨['\x7b'], rfl⟩
  | (_, _) :: _ => ⟨_, rfl⟩

end Json

/-! ## Printing -/

namespace Entries

open Document

variable {es es' : Entries} {text : String}

/-- Keyed documents are printed as their JSON text if each integer in them can be written. -/
theorem print_json_eq_ok_iff : es.print true = .ok text ↔
    (∀ n ∈ entriesNumbers es, (digits n.natAbs).length ≤ digitLimit) ∧
      (Document.object es).json = text := by
  have hwritable : (∀ n ∈ entriesNumbers es, (digits n.natAbs).length ≤ digitLimit) ↔
      entriesWritable es = true := by
    rw [entriesWritable_iff]
    exact forall₂_congr fun n _ => isWritable_iff.symm
  rw [hwritable, print]
  split
  · next h => exact ⟨fun h' => ⟨h, Except.ok.inj h'⟩, fun h' => congrArg Except.ok h'.2⟩
  · next h => exact ⟨(nomatch ·), fun h' => absurd h'.1 h⟩

/-- No two trees are printed as one text. -/
theorem eq_of_print_json (h : es.print true = .ok text) (h' : es'.print true = .ok text) :
    es' = es := by
  obtain ⟨-, rfl⟩ := print_json_eq_ok_iff.mp h
  obtain ⟨-, htext⟩ := print_json_eq_ok_iff.mp h'
  have hread := Json.read?_json (.object es')
  rw [htext, Json.read?_json] at hread
  exact (Document.object.inj (Option.some.inj hread)).symm

/-- **Printed JSON stands for what was printed.** A tree whose integers have at most `digitLimit` digits is
printed. The text consists of printable characters of ASCII and line feeds, and it ends with one line feed,
behind the closing brace. The grammar derives it for this tree and for no other document, the reader gives
the tree back, and no other tree is printed as the same text. -/
theorem print_json (h : ∀ n ∈ entriesNumbers es, (digits n.natAbs).length ≤ digitLimit) :
    ∃ text, es.print true = .ok text ∧ Json.PlainText text.toList ∧
      (∃ body, text.toList = body ++ ['\x7d', '\n']) ∧
      (∀ d, Json.Derives (.element d) text.toList ↔ d = .object es) ∧
      Json.read? text = some (.object es) ∧
      ∀ es' : Entries, es'.print true = .ok text → es' = es := by
  have hprint := print_json_eq_ok_iff.mpr ⟨h, rfl⟩
  have htext : (Document.object es).json.toList = Json.write 0 (.object es) ++ ['\n'] :=
    String.toList_ofList
  refine ⟨_, hprint, ?_, ?_, fun d => Json.derives_json_iff, Json.read?_json _,
    fun es' h' => eq_of_print_json hprint h'⟩
  · rw [htext, Json.plainText_append]
    exact ⟨Json.plainText_write 0 _, by decide⟩
  · obtain ⟨body, hbody⟩ := Json.write_object 0 es
    exact ⟨body, by rw [htext, hbody, List.append_assoc]; rfl⟩

/-- A tree with empty containers, a character of every kind, and an integer of either sign. -/
def motleyTree : Entries :=
  [("", .list []), ("a\x00\x7f\\", .object [("é", .list [.null, .number (-12), .object []])]),
    ("\n", .text "\x22😀/"), ("z", .number 100000000000000000000), ("a", .flag false)]

theorem print_json_motleyTree :
    (∀ n ∈ entriesNumbers motleyTree, (digits n.natAbs).length ≤ digitLimit) ∧
      ∃ text, motleyTree.print true = .ok text ∧ Json.PlainText text.toList ∧
        Json.read? text = some (.object motleyTree) := by
  have hfits : ∀ n ∈ entriesNumbers motleyTree, (digits n.natAbs).length ≤ digitLimit := by decide
  obtain ⟨text, hprint, hplain, -, -, hread, -⟩ := print_json hfits
  exact ⟨hfits, text, hprint, hplain, hread⟩

end Entries

end ObjectStorage

import ObjectStorage.Command.Report
import ObjectStorage.Proofs.Environment.Image
import ObjectStorage.Proofs.Text.Digits

/-!
# The integers of a document

* `Document.numbers`: every integer that stands somewhere in a document, in the order of writing.
* `Document.entriesWritable_iff`: keyed documents can be written exactly if each of these integers can.
* `Settings.length_digits_of_mem_numbers`: settings from an environment of texts hold no integer with too
  many digits.
* `Settings.entries_print`: so they are printed, as JSON and as an outline.
-/

namespace ObjectStorage

open ObjectStorage.Text ObjectStorage.Text.Numeral

/-! ## Documents -/

namespace Document

mutual

/-- The integers of a document. -/
def numbers : Document → List Int
  | .number n => [n]
  | .list items => itemsNumbers items
  | .object entries => entriesNumbers entries
  | _ => []

/-- The integers of a list of documents. -/
def itemsNumbers : List Document → List Int
  | [] => []
  | d :: ds => numbers d ++ itemsNumbers ds

/-- The integers of keyed documents. -/
def entriesNumbers : Entries → List Int
  | [] => []
  | (_, d) :: es => numbers d ++ entriesNumbers es

end

mutual

/-- A document can be written exactly if each of its integers can. -/
theorem isWritable_iff : ∀ d : Document,
    isWritable d = true ↔ ∀ n ∈ numbers d, Numeral.isWritable n = true
  | .null => by simp [isWritable, numbers]
  | .flag b => by simp [isWritable, numbers]
  | .number n => by simp [isWritable, numbers]
  | .text s => by simp [isWritable, numbers]
  | .list items => by
    rw [isWritable, numbers]
    exact itemsWritable_iff items
  | .object es => by
    rw [isWritable, numbers]
    exact entriesWritable_iff es

theorem itemsWritable_iff : ∀ items : List Document,
    itemsWritable items = true ↔ ∀ n ∈ itemsNumbers items, Numeral.isWritable n = true
  | [] => by simp [itemsWritable, itemsNumbers]
  | d :: ds => by
    rw [itemsWritable, itemsNumbers, Bool.and_eq_true, isWritable_iff d, itemsWritable_iff ds,
      List.forall_mem_append]

/-- Keyed documents can be written exactly if each of their integers can. -/
theorem entriesWritable_iff : ∀ es : Entries,
    entriesWritable es = true ↔ ∀ n ∈ entriesNumbers es, Numeral.isWritable n = true
  | [] => by simp [entriesWritable, entriesNumbers]
  | (k, d) :: es => by
    rw [entriesWritable, entriesNumbers, Bool.and_eq_true, isWritable_iff d, entriesWritable_iff es,
      List.forall_mem_append]

end

theorem mem_entriesNumbers {n : Int} {es : Entries} :
    n ∈ entriesNumbers es ↔ ∃ e ∈ es, n ∈ numbers e.2 := by
  induction es with
  | nil => simp [entriesNumbers]
  | cons e es ih => simp [entriesNumbers, ih]

@[simp] theorem numbers_ofOption (s : Option String) : numbers (ofOption s) = [] := by
  cases s <;> rfl

@[simp] theorem itemsNumbers_map_text (names : List String) :
    itemsNumbers (names.map .text) = [] := by
  induction names with
  | nil => rfl
  | cons name names ih => simp [itemsNumbers, numbers, ih]

/-- Only numbers and write channels hold integers. -/
theorem numbers_kindDocument {k : Kind} (hnumber : k ≠ .number) (hchannel : k ≠ .writeChannel)
    (v : k.Value) : numbers (k.document v) = [] := by
  cases k with
  | text => exact numbers_ofOption v
  | flag => rfl
  | number => exact absurd rfl hnumber
  | transport => rfl
  | writeChannel => exact absurd rfl hchannel
  | requesterPays =>
    show numbers (RequesterPays.document v) = []
    simp [RequesterPays.document, numbers, entriesNumbers]

end Document

/-! ## Settings -/

namespace Settings

open Document

variable {s : Settings} {n : Int}

/-- In settings from an environment of texts, no field holds an integer with too many digits. -/
theorem length_digits_of_mem_field (hs : s.FromTexts) (f : Field)
    (h : n ∈ numbers (f.kind.document (s.get f))) : (digits n.natAbs).length ≤ digitLimit := by
  have hnumber {m : Int} (hfits : (digits m.natAbs).length ≤ digitLimit)
      (hmem : n ∈ numbers (.number m)) : (digits n.natAbs).length ≤ digitLimit := by
    obtain rfl := List.mem_singleton.mp hmem
    exact hfits
  cases f with
  | maxWaitMillisForEmptyObject => exact hnumber (hs.parts .maxWaitMillisForEmptyObject) h
  | maxListItemsPerCall => exact hnumber (hs.parts .maxListItemsPerCall) h
  | maxRequestsPerBatch => exact hnumber (hs.parts .maxRequestsPerBatch) h
  | batchThreads => exact hnumber (hs.parts .batchThreads) h
  | maxHttpRequestRetries => exact hnumber (hs.parts .maxHttpRequestRetries) h
  | connectTimeout => exact hnumber (hs.parts .connectTimeout) h
  | readTimeout => exact hnumber (hs.parts .readTimeout) h
  | writeChannel =>
    -- no variable is for the write channel: it is the default one
    have hall : ∀ m ∈ numbers WriteChannel.default.document,
        (digits m.natAbs).length ≤ digitLimit := by decide
    have hmem : n ∈ numbers s.writeChannel.document := h
    rw [hs.writeChannel] at hmem
    exact hall n hmem
  | _ =>
    rw [numbers_kindDocument (by decide) (by decide)] at h
    cases h

/-- Settings from an environment of texts hold no integer with too many digits. -/
theorem length_digits_of_mem_numbers (hs : s.FromTexts) (h : n ∈ numbers s.document) :
    (digits n.natAbs).length ≤ digitLimit := by
  obtain ⟨e, he, hn⟩ := mem_entriesNumbers.mp h
  obtain ⟨f, -, rfl⟩ := List.mem_map.mp he
  exact length_digits_of_mem_field hs f hn

/-- Settings from an environment of texts are printed, in either form. -/
theorem entries_print (hs : s.FromTexts) (json : Bool) :
    s.entries.print json = .ok (if json then s.document.json else s.entries.outline) := by
  have hwritable : entriesWritable s.entries = true := by
    rw [entriesWritable_iff]
    intro n hn
    exact Numeral.isWritable_iff.mpr (length_digits_of_mem_numbers hs hn)
  exact if_pos hwritable

end Settings

end ObjectStorage

import ObjectStorage.Environment.Reading
import ObjectStorage.Proofs.Text.Pieces
import ObjectStorage.Proofs.Text.Trimming

/-!
# Lists of bucket names

* `Listable`: a name that can stand in a list: it is not empty, and has neither a comma nor outer blanks.
* `listable_of_mem_bucketList`, `bucketList_intercalate`: the names that are read from a text are
  listable, and listable names joined by commas are read again as they are.
-/

namespace ObjectStorage

open ObjectStorage.Text

/-! ## Names between commas -/

/-- A name that can stand in a list of names. -/
structure Listable (name : String) : Prop where
  nonempty : name ≠ ""
  commaFree : ',' ∉ name.toList
  trimmed : trim isOuterBlank name.toList = name.toList

instance (name : String) : Decidable (Listable name) :=
  decidable_of_iff (name ≠ "" ∧ ',' ∉ name.toList ∧ trim isOuterBlank name.toList = name.toList)
    ⟨fun ⟨hne, hcomma, htrim⟩ => ⟨hne, hcomma, htrim⟩, fun h => ⟨h.nonempty, h.commaFree, h.trimmed⟩⟩

/-- Every name that is read from a text is listable. -/
theorem listable_of_mem_bucketList {s name : String} (h : name ∈ bucketList s) : Listable name := by
  obtain ⟨piece, hpiece, hname⟩ := List.mem_filterMap.mp h
  obtain ⟨raw, hraw, rfl⟩ := List.mem_map.mp hpiece
  split at hname
  · cases hname
  · next hne =>
    obtain rfl := Option.some.inj hname
    refine ⟨?_, ?_, ?_⟩
    · intro hempty
      exact hne (String.ofList_eq_empty_iff.mp hempty)
    · rw [String.toList_ofList]
      exact fun hc => not_mem_of_mem_splitOn hraw (mem_of_mem_trim hc)
    · rw [String.toList_ofList, trim_trim]

/-- Texts without commas, joined by commas, are the pieces between them. -/
theorem splitOn_intercalate {pieces : List String} (hne : pieces ≠ [])
    (h : ∀ piece ∈ pieces, ',' ∉ piece.toList) :
    (",".intercalate pieces).toList.splitOn ',' = pieces.map String.toList := by
  rw [String.toList_intercalate]
  refine List.splitOn_intercalate ',' (fun cs hcs => ?_) (by simpa using hne)
  obtain ⟨piece, hpiece, rfl⟩ := List.mem_map.mp hcs
  exact h piece hpiece

/-- Listable names joined by commas are read again as they are. -/
theorem bucketList_intercalate {names : List String} (hne : names ≠ [])
    (h : ∀ name ∈ names, Listable name) : bucketList (",".intercalate names) = names := by
  have hsplit := splitOn_intercalate hne fun name hname => (h name hname).commaFree
  unfold bucketList
  rw [hsplit, List.map_map, List.filterMap_map]
  clear hsplit hne
  induction names with
  | nil => rfl
  | cons name names ih =>
    obtain ⟨hname, hnames⟩ := List.forall_mem_cons.mp h
    have hlist : name.toList ≠ [] := fun hnil => hname.nonempty (String.toList_eq_nil_iff.mp hnil)
    have hkept : ((fun cs => if cs = [] then none else some (String.ofList cs)) ∘
        (trim isOuterBlank ∘ String.toList)) name = some name := by
      simp [hname.trimmed, hlist]
    rw [List.filterMap_cons_some hkept, ih hnames]

end ObjectStorage

import ObjectStorage.Proofs.Environment.BucketList
import ObjectStorage.Proofs.Environment.Entrywise

/-!
# The bucket names of a text

* `IsPieces s pieces`: the texts between the commas of a text.
* `Named pieces name`: what is left of one of these texts without its outer blanks, if that is not empty.
* `mem_bucketList_iff`: the names that are read from a text are those of its pieces.
* `Rearranged`: pieces in another order, repeated, between more blanks, or with blank ones among them;
  `named_iff_of_rearranged`: they have the same names.
* `GivesBuckets s b`: where the variable for bucket names has the text `s`, the settings have the set `b`.
* `RequesterPays.Lists r names`: the document of `r` lists these names.
* `buckets_of_text`: the set of a text, and the list of a set.
-/

namespace ObjectStorage

open Environment ObjectStorage.Text

/-! ## Pieces -/

/-- The texts between the commas of a text. -/
structure IsPieces (s : String) (pieces : List String) : Prop where
  nonempty : pieces ≠ []
  commaFree : ∀ piece ∈ pieces, ',' ∉ piece.toList
  joined : ",".intercalate pieces = s

/-- Every text has pieces. -/
theorem exists_isPieces (s : String) : ∃ pieces, IsPieces s pieces := by
  have hlists : ((s.toList.splitOn ',').map String.ofList).map String.toList = s.toList.splitOn ',' := by
    rw [List.map_map, show String.toList ∘ String.ofList = id from funext fun _ => String.toList_ofList,
      List.map_id]
  refine ⟨(s.toList.splitOn ',').map String.ofList, ?_, ?_, ?_⟩
  · simp [List.splitOn_ne_nil]
  · intro piece hpiece
    obtain ⟨cs, hcs, rfl⟩ := List.mem_map.mp hpiece
    rw [String.toList_ofList]
    exact not_mem_of_mem_splitOn hcs
  · refine String.toList_inj.mp ?_
    rw [String.toList_intercalate, hlists]
    exact List.intercalate_splitOn ','

/-- A name is what is left of a piece without its outer blanks, and not empty. -/
def Named (pieces : List String) (name : String) : Prop :=
  name ≠ "" ∧ ∃ piece ∈ pieces, IsCore isOuterBlank piece.toList name.toList

variable {s : String} {pieces pieces' : List String} {name : String} {b : Buckets}

theorem named_iff_trim :
    Named pieces name ↔ name ≠ "" ∧ ∃ piece ∈ pieces, trim isOuterBlank piece.toList = name.toList := by
  simp only [Named, trim_eq_iff]

/-- The names that are read from a text are those of its pieces. -/
theorem mem_bucketList_iff (h : IsPieces s pieces) : name ∈ bucketList s ↔ Named pieces name := by
  rw [named_iff_trim, bucketList, ← h.joined, splitOn_intercalate h.nonempty h.commaFree,
    List.map_map, List.mem_filterMap]
  constructor
  · rintro ⟨cs, hcs, hname⟩
    obtain ⟨piece, hpiece, rfl⟩ := List.mem_map.mp hcs
    split at hname
    · cases hname
    · next hne =>
      obtain rfl := Option.some.inj hname
      refine ⟨fun hempty => hne (String.ofList_eq_empty_iff.mp hempty), piece, hpiece, ?_⟩
      rw [String.toList_ofList]
      rfl
  · rintro ⟨hne, piece, hpiece, htrim⟩
    have hcore : name.toList ≠ [] := fun hnil => hne (String.toList_eq_nil_iff.mp hnil)
    refine ⟨name.toList, List.mem_map.mpr ⟨piece, hpiece, htrim⟩, ?_⟩
    rw [if_neg hcore, String.ofList_toList]

/-! ## Rearranged pieces -/

/-- Pieces in another order, repeated, between more blanks, or with blank ones among them. -/
inductive Rearranged : List String → List String → Prop
  | permuted {pieces pieces' : List String} (h : pieces.Perm pieces') : Rearranged pieces pieces'
  | repeated {piece : String} {pieces : List String} (h : piece ∈ pieces) :
      Rearranged pieces (piece :: pieces)
  | padded {front piece back : String} {pieces : List String}
      (hfront : ∀ c ∈ front.toList, isOuterBlank c = true)
      (hback : ∀ c ∈ back.toList, isOuterBlank c = true) :
      Rearranged (piece :: pieces) ((front ++ piece ++ back) :: pieces)
  | blank {piece : String} {pieces : List String} (h : ∀ c ∈ piece.toList, isOuterBlank c = true) :
      Rearranged pieces (piece :: pieces)
  | symm {pieces pieces' : List String} (h : Rearranged pieces pieces') : Rearranged pieces' pieces
  | trans {pieces pieces' pieces'' : List String} (h : Rearranged pieces pieces')
      (h' : Rearranged pieces' pieces'') : Rearranged pieces pieces''

theorem named_cons {piece : String} :
    Named (piece :: pieces) name ↔
      (name ≠ "" ∧ trim isOuterBlank piece.toList = name.toList) ∨ Named pieces name := by
  simp only [named_iff_trim, List.mem_cons, exists_eq_or_imp, and_or_left]

/-- Rearranged pieces have the same names. -/
theorem named_iff_of_rearranged (h : Rearranged pieces pieces') : Named pieces name ↔ Named pieces' name := by
  induction h with
  | permuted h => simp only [Named, h.mem_iff]
  | repeated h =>
    rw [named_cons, or_iff_right_of_imp]
    rintro ⟨hne, htrim⟩
    exact named_iff_trim.mpr ⟨hne, _, h, htrim⟩
  | padded hfront hback =>
    rw [named_cons, named_cons, String.toList_append, String.toList_append, trim_append_right hback,
      trim_append_left hfront]
  | @blank piece pieces h =>
    rw [named_cons, or_iff_right_of_imp]
    rintro ⟨hne, htrim⟩
    -- nothing is left of a blank piece
    have hnil : trim isOuterBlank piece.toList = [] := by
      rw [← List.append_nil piece.toList, trim_append_left h, trim_nil]
    exact absurd (String.toList_eq_nil_iff.mp (htrim.symm.trans hnil)) hne
  | symm h ih => exact ih.symm
  | trans h h' ih ih' => exact ih.trans ih'

/-! ## Environments -/

/-- Where the variable for bucket names has a text, the settings have a set of buckets. -/
def GivesBuckets (s : String) (b : Buckets) : Prop :=
  ∃ E t, E.lookup Variable.payerBuckets.name = some s ∧ (ofTexts E).settings = .ok t ∧
    t.requesterPays.buckets = b

/-- The set of a text is that of the names that are read from it; the empty text has none. -/
theorem givesBuckets_iff : GivesBuckets s b ↔ b = .ofList (bucketList s) := by
  have hset : ∀ E t, E.lookup Variable.payerBuckets.name = some s → (ofTexts E).settings = .ok t →
      t.requesterPays.buckets = .ofList (bucketList s) := by
    intro E t hs ht
    by_cases hempty : s = ""
    · have hnone : (ofTexts E).given? .payerBuckets = none := by
        rw [given?, lookup_ofTexts, hs, hempty]
        rfl
      have hpart : t.requesterPays.buckets = .empty := part_of_not_given ht hnone
      rw [hpart, hempty]
      rfl
    · have hgiven : (ofTexts E).given? .payerBuckets = some (.text s) :=
        given?_ofTexts_eq_some_iff.mpr ⟨s, hs, hempty, rfl⟩
      exact part_of_given ht hgiven rfl
  constructor
  · rintro ⟨E, t, hs, ht, rfl⟩
    exact hset E t hs ht
  · rintro rfl
    have hread : ∃ o, (ofTexts [(Variable.payerBuckets.name, s)]).read? .payerBuckets = .ok o := by
      rw [exists_read?_eq_ok_iff]
      intro raw hraw
      obtain ⟨t, -, -, rfl⟩ := given?_ofTexts_eq_some_iff.mp hraw
      exact ⟨_, rfl⟩
    have hs : [(Variable.payerBuckets.name, s)].lookup Variable.payerBuckets.name = some s := by
      simp
    obtain ⟨t, ht⟩ := exists_settings (fun u hu => ⟨none, read?_single_of_ne hu⟩) hread
    exact ⟨_, t, hs, ht, hset _ _ hs ht⟩

/-! ## Documents -/

/-- The code points of a text. -/
def Text.codePoints (s : String) : List Nat := s.toList.map Char.toNat

theorem Text.codePoints_lt {a b : String} (h : a < b) : codePoints a < codePoints b :=
  List.map_lt (fun _ _ hlt => hlt) (String.lt_iff.mp h)

/-- The document of a requester-pays value lists some names. -/
def RequesterPays.Lists (r : RequesterPays) (names : List String) : Prop :=
  ∃ mode project, r.document =
    .object [("mode", mode), ("project_id", project), ("buckets", .list (names.map .text))]

theorem RequesterPays.lists_iff {r : RequesterPays} {names : List String} :
    r.Lists names ↔ names = r.buckets.names := by
  have htexts : ∀ xs ys : List String, xs.map Document.text = ys.map Document.text → xs = ys :=
    fun xs ys => (List.map_inj_right fun _ _ h => Document.text.inj h).mp
  constructor
  · rintro ⟨mode, project, hdocument⟩
    simp only [document, Document.object.injEq, List.cons.injEq, Prod.mk.injEq, Document.list.injEq,
      and_true, true_and] at hdocument
    exact (htexts _ _ hdocument.2.2).symm
  · rintro rfl
    exact ⟨_, _, rfl⟩

/-- The names that a document lists ascend by code point. -/
theorem Buckets.codePoints_ascending (b : Buckets) :
    b.names.Pairwise fun name name' => codePoints name < codePoints name' :=
  b.ascending.imp codePoints_lt

/-- Names that were read from a text, joined by commas, have the same set. -/
theorem givesBuckets_names (h : GivesBuckets s b) {b' : Buckets} :
    GivesBuckets (",".intercalate b.names) b' ↔ b' = b := by
  obtain rfl := givesBuckets_iff.mp h
  rw [givesBuckets_iff]
  by_cases hnil : (Buckets.ofList (bucketList s)).names = []
  · have hempty : Buckets.ofList (bucketList s) = .empty := Buckets.ext fun name => by
      rw [Buckets.mem_def, hnil]
      rfl
    rw [hempty]
    rfl
  · rw [bucketList_intercalate hnil fun name hname =>
        listable_of_mem_bucketList (Buckets.mem_ofList.mp hname),
      Buckets.ofList_names]

/-! ## Sets and lists -/

/-- **The set of bucket names of a text, and the list of a set.** Every text has a set, and the same in every
environment: a name is in it exactly if it is not empty and is what is left of one of the texts between the
commas without its outer blanks. So pieces in another order, repeated, between more blanks or with blank ones
among them have the same set.
The document of a set lists its members and nothing else, strictly ascending by code point, however the set
was made; and of a set that a text has, the listed names, joined by commas, have that set again. -/
theorem buckets_of_text :
    (∀ s, ∃ pieces b, IsPieces s pieces ∧ GivesBuckets s b) ∧
    (∀ s b pieces, GivesBuckets s b → IsPieces s pieces → ∀ name, name ∈ b ↔ Named pieces name) ∧
    (∀ s s' b b' pieces pieces', GivesBuckets s b → GivesBuckets s' b' → IsPieces s pieces →
      IsPieces s' pieces' → Rearranged pieces pieces' → b = b') ∧
    (∀ (r : RequesterPays) (names : List String), r.buckets = .ofList names →
      ∃ listed, r.Lists listed ∧ (∀ name, name ∈ listed ↔ name ∈ names) ∧
        listed.Pairwise fun name name' => codePoints name < codePoints name') ∧
    ∀ (s : String) (r : RequesterPays) (listed : List String), GivesBuckets s r.buckets →
      r.Lists listed → ∀ b, GivesBuckets (",".intercalate listed) b ↔ b = r.buckets := by
  have hmem : ∀ s b pieces, GivesBuckets s b → IsPieces s pieces →
      ∀ name, name ∈ b ↔ Named pieces name := by
    intro s b pieces h hpieces name
    obtain rfl := givesBuckets_iff.mp h
    rw [Buckets.mem_ofList, mem_bucketList_iff hpieces]
  refine ⟨fun s => ?_, hmem, ?_, ?_, ?_⟩
  · obtain ⟨pieces, hpieces⟩ := exists_isPieces s
    exact ⟨pieces, _, hpieces, givesBuckets_iff.mpr rfl⟩
  · intro s s' b b' pieces pieces' h h' hpieces hpieces' hsame
    refine Buckets.ext fun name => ?_
    rw [hmem s b pieces h hpieces, hmem s' b' pieces' h' hpieces', named_iff_of_rearranged hsame]
  · intro r names hr
    refine ⟨r.buckets.names, RequesterPays.lists_iff.mpr rfl, fun name => ?_,
      Buckets.codePoints_ascending r.buckets⟩
    rw [← Buckets.mem_def, hr, Buckets.mem_ofList]
  · intro s r listed h hlisted b
    obtain rfl := RequesterPays.lists_iff.mp hlisted
    exact givesBuckets_names h

/-- Pieces out of order, with blanks, a repetition and an empty one, and a character beyond U+FFFF. -/
def mixedPieces : List String := ["\uffff", " b ", "😀", "", "b"]

/-- The pieces that matter. -/
def plainPieces : List String := ["b", "\uffff", "😀"]

theorem rearranged_mixedPieces : Rearranged mixedPieces plainPieces := by
  have hblank : ∀ c ∈ " ".toList, isOuterBlank c = true := List.forall_mem_singleton.mpr rfl
  have hpadded : Rearranged ("b" :: "b" :: ["\uffff", "😀"]) (" b " :: "b" :: ["\uffff", "😀"]) :=
    .padded hblank hblank
  have hempty : Rearranged (" b " :: "b" :: ["\uffff", "😀"]) ("" :: " b " :: "b" :: ["\uffff", "😀"]) :=
    .blank (List.forall_mem_nil _)
  have hrepeated : Rearranged plainPieces ("b" :: plainPieces) := .repeated (by decide)
  exact .trans (.permuted (by decide)) (.trans hempty.symm (.trans hpadded.symm hrepeated.symm))

theorem buckets_of_mixedPieces :
    ∃ b b', GivesBuckets (",".intercalate mixedPieces) b ∧ GivesBuckets (",".intercalate plainPieces) b' ∧
      IsPieces (",".intercalate mixedPieces) mixedPieces ∧
      IsPieces (",".intercalate plainPieces) plainPieces ∧ Rearranged mixedPieces plainPieces ∧
      b = b' ∧ "😀" ∈ b ∧ b = .ofList ["😀", "b", "\uffff", "b"] ∧
      RequesterPays.Lists ⟨.custom, none, b⟩ plainPieces ∧
      GivesBuckets (",".intercalate plainPieces) b := by
  obtain ⟨hexists, hnames, hsame, hlists, hagain⟩ := buckets_of_text
  obtain ⟨-, b, -, hb⟩ := hexists (",".intercalate mixedPieces)
  obtain ⟨-, b', -, hb'⟩ := hexists (",".intercalate plainPieces)
  have hmixed : IsPieces (",".intercalate mixedPieces) mixedPieces := ⟨by decide, by decide, rfl⟩
  have hplain : IsPieces (",".intercalate plainPieces) plainPieces := ⟨by decide, by decide, rfl⟩
  have heq : b = b' := hsame _ _ _ _ _ _ hb hb' hmixed hplain rearranged_mixedPieces
  have hset : b = .ofList ["😀", "b", "\uffff", "b"] := by
    rw [givesBuckets_iff.mp hb]
    rfl
  obtain ⟨listed, hlisted, -, -⟩ := hlists ⟨.custom, none, b⟩ _ hset
  have hplainList : listed = plainPieces := by
    rw [RequesterPays.lists_iff.mp hlisted, hset]
    rfl
  subst hplainList
  refine ⟨b, b', hb, hb', hmixed, hplain, rearranged_mixedPieces, heq, ?_, hset, hlisted, ?_⟩
  · exact (hnames _ _ _ hb hmixed "😀").mpr ⟨by decide, "😀", by decide, trim_eq_iff.mp rfl⟩
  · exact (hagain _ ⟨.custom, none, b⟩ _ hb hlisted b).mpr rfl

end ObjectStorage

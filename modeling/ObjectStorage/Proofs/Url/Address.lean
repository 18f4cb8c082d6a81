import ObjectStorage.Proofs.Url.Authority

/-!
# The grammar of addresses in brackets

* `Ip.IsGroups`: groups of hexadecimal digits between colons, a version 4 address perhaps in the last place.
* `Ip.IsVersion6Text`: eight groups, or up to seven around two colons.
* `IsAddress`: a version 6 address, perhaps with a zone, or an address of a future version.
* `Ip.countGroups?_eq_some_iff`, `Ip.hasEightGroups_iff`: what the readers of groups take.
* `checkHost_eq_ok_iff`: the hosts that may stand in brackets are the addresses.
-/

namespace ObjectStorage.Url

open ObjectStorage.Text

namespace Ip

variable {c : Char} {cs g left right : List Char} {tail : Bool} {n : Nat}

/-! ## Characters -/

/-- A character of the groups of an address: a hexadecimal digit, a colon or a point. -/
def isGroupChar (c : Char) : Bool := isHexDigit c || c = ':' || c = '.'

theorem isGroupChar_of_isGroup (h : isGroup cs = true) (hc : c ∈ cs) : isGroupChar c = true := by
  simp only [isGroup, Bool.and_eq_true] at h
  simp [isGroupChar, List.all_eq_true.mp h.2 c hc]

/-- The characters of a version 4 address are points and digits. -/
theorem eq_point_or_isDigit (h : isVersion4 cs = true) (hc : c ∈ cs) :
    c = '.' ∨ Numeral.isDigit c = true := by
  rcases mem_piece_of_mem '.' hc with hpoint | ⟨octet, hoctet, hmem⟩
  · exact .inl hpoint
  · have hall := List.all_eq_true.mp (Bool.and_eq_true_iff.mp h).2 octet hoctet
    simp only [isOctet, Bool.and_eq_true] at hall
    exact .inr (List.all_eq_true.mp hall.1.1.2 c hmem)

theorem isGroupChar_of_isVersion4 (h : isVersion4 cs = true) (hc : c ∈ cs) : isGroupChar c = true := by
  rcases eq_point_or_isDigit h hc with rfl | hdigit
  · decide
  · simp [isGroupChar, isHexDigit, hdigit]

theorem colon_not_mem_of_isVersion4 (h : isVersion4 cs = true) : ':' ∉ cs := by
  intro hcolon
  rcases eq_point_or_isDigit h hcolon with hpoint | hdigit
  · exact absurd hpoint (by decide)
  · exact absurd hdigit (by decide)

theorem colon_not_mem_of_isGroup (hg : isGroup g = true) : ':' ∉ g := by
  intro hc
  have hall := List.all_eq_true.mp (Bool.and_eq_true_iff.mp hg).2 ':' hc
  exact absurd hall (by decide)

theorem ne_nil_of_isGroup (hg : isGroup g = true) : g ≠ [] := by
  rintro rfl
  cases hg

theorem not_isGroup_of_isVersion4 (h : isVersion4 cs = true) : isGroup cs = false := by
  have hpoint : '.' ∈ cs := by
    by_contra hnone
    have hlength := of_decide_eq_true (Bool.and_eq_true_iff.mp h).1
    rw [List.splitOn_eq_singleton hnone] at hlength
    cases hlength
  by_contra hgroup
  rw [Bool.not_eq_false, isGroup, Bool.and_eq_true] at hgroup
  exact absurd (List.all_eq_true.mp hgroup.2 '.' hpoint) (by decide)

/-! ## Groups -/

/-- Groups of up to four hexadecimal digits between colons; where `tail` allows it, a version 4 address in
the last place stands for two. -/
inductive IsGroups (tail : Bool) : Nat → List Char → Prop
  | group {g : List Char} (hg : isGroup g = true) : IsGroups tail 1 g
  | quad {q : List Char} (htail : tail = true) (hq : isVersion4 q = true) : IsGroups tail 2 q
  | cons {n : Nat} {g cs : List Char} (hg : isGroup g = true) (h : IsGroups tail n cs) :
    IsGroups tail (n + 1) (g ++ ':' :: cs)

/-- How many groups some pieces are: each a group, or a version 4 address as the last one. -/
def countPieces? (tail : Bool) (pieces : List (List Char)) : Option Nat :=
  if pieces.all isGroup then some pieces.length
  else if tail && pieces.dropLast.all isGroup && isVersion4 (pieces.getLast?.getD []) then
    some (pieces.length + 1)
  else none

theorem countGroups?_eq (hne : cs ≠ []) : countGroups? tail cs = countPieces? tail (cs.splitOn ':') := by
  rw [countGroups?, if_neg hne]
  rfl

theorem countPieces?_singleton (g : List Char) :
    countPieces? tail [g] =
      if isGroup g then some 1 else if tail && isVersion4 g then some 2 else none := by
  simp [countPieces?]

theorem countPieces?_cons_cons (g p : List Char) (pieces : List (List Char)) :
    countPieces? tail (g :: p :: pieces) =
      if isGroup g then (countPieces? tail (p :: pieces)).map (· + 1) else none := by
  by_cases hg : isGroup g = true
  · rw [if_pos hg]
    unfold countPieces?
    simp only [List.all_cons, hg, Bool.true_and, List.dropLast_cons_cons, List.getLast?_cons_cons,
      List.length_cons]
    split
    · rfl
    · split
      · rfl
      · rfl
  · simp [countPieces?, hg]

theorem isGroups_of_countPieces? {pieces : List (List Char)} (hne : pieces ≠ [])
    (h : countPieces? tail pieces = some n) : IsGroups tail n ([':'].intercalate pieces) := by
  induction pieces generalizing n with
  | nil => exact absurd rfl hne
  | cons g rest ih =>
    cases rest with
    | nil =>
      rw [countPieces?_singleton] at h
      rw [List.intercalate_singleton]
      by_cases hg : isGroup g = true
      · rw [if_pos hg] at h
        obtain rfl := Option.some.inj h
        exact .group hg
      · rw [if_neg hg] at h
        by_cases hq : (tail && isVersion4 g) = true
        · rw [if_pos hq] at h
          obtain rfl := Option.some.inj h
          obtain ⟨htail, hfour⟩ := Bool.and_eq_true_iff.mp hq
          exact .quad htail hfour
        · rw [if_neg hq] at h
          cases h
    | cons p pieces =>
      rw [countPieces?_cons_cons] at h
      by_cases hg : isGroup g = true
      · rw [if_pos hg] at h
        obtain ⟨m, hm, rfl⟩ := Option.map_eq_some_iff.mp h
        have hrest := IsGroups.cons hg (ih (List.cons_ne_nil p pieces) hm)
        rw [List.intercalate_cons_cons, List.append_assoc]
        exact hrest
      · rw [if_neg hg] at h
        cases h

theorem countPieces?_of_isGroups (h : IsGroups tail n cs) :
    countPieces? tail (cs.splitOn ':') = some n := by
  induction h with
  | group hg =>
    rw [List.splitOn_eq_singleton (colon_not_mem_of_isGroup hg), countPieces?_singleton, if_pos hg]
  | quad htail hq =>
    have hgroup := Bool.eq_false_iff.mp (not_isGroup_of_isVersion4 hq)
    have hboth := Bool.and_eq_true_iff.mpr ⟨htail, hq⟩
    rw [List.splitOn_eq_singleton (colon_not_mem_of_isVersion4 hq), countPieces?_singleton,
      if_neg hgroup, if_pos hboth]
  | @cons n g cs hg h ih =>
    obtain ⟨p, pieces, hpieces⟩ := List.exists_cons_of_ne_nil (List.splitOn_ne_nil ':' cs)
    rw [hpieces] at ih
    rw [splitOn_append_cons (colon_not_mem_of_isGroup hg), hpieces, countPieces?_cons_cons,
      if_pos hg, ih]
    rfl

/-- Either no groups, or some. -/
def IsSide (tail : Bool) (n : Nat) (cs : List Char) : Prop := (cs = [] ∧ n = 0) ∨ IsGroups tail n cs

theorem IsGroups.ne_nil (h : IsGroups tail n cs) : cs ≠ [] := by
  cases h with
  | group hg => exact ne_nil_of_isGroup hg
  | quad htail hq =>
    rintro rfl
    cases hq
  | cons hg h => exact List.append_ne_nil_of_right_ne_nil _ (List.cons_ne_nil _ _)

theorem IsGroups.isGroupChar (h : IsGroups tail n cs) : ∀ c ∈ cs, isGroupChar c = true := by
  induction h with
  | group hg => exact fun c hc => isGroupChar_of_isGroup hg hc
  | quad htail hq => exact fun c hc => isGroupChar_of_isVersion4 hq hc
  | cons hg h ih =>
    intro c hc
    rcases List.mem_append.mp hc with hc | hc
    · exact isGroupChar_of_isGroup hg hc
    · rcases List.mem_cons.mp hc with rfl | hc
      · decide
      · exact ih c hc

/-- The reader of groups takes just these. -/
theorem countGroups?_eq_some_iff : countGroups? tail cs = some n ↔ IsSide tail n cs := by
  by_cases hnil : cs = []
  · constructor
    · intro h
      rw [countGroups?, if_pos hnil] at h
      exact .inl ⟨hnil, (Option.some.inj h).symm⟩
    · rintro (⟨-, rfl⟩ | h)
      · rw [countGroups?, if_pos hnil]
      · exact absurd hnil h.ne_nil
  · rw [countGroups?_eq hnil]
    constructor
    · intro h
      have hgroups := isGroups_of_countPieces? (List.splitOn_ne_nil ':' cs) h
      rw [List.intercalate_splitOn] at hgroups
      exact .inr hgroups
    · rintro (⟨h, -⟩ | h)
      · exact absurd h hnil
      · exact countPieces?_of_isGroups h

/-! ## Eight groups -/

/-- Eight groups, or up to seven around two colons. -/
inductive IsVersion6Text : List Char → Prop
  | full {cs : List Char} (h : IsGroups true 8 cs) : IsVersion6Text cs
  | gap {left right : List Char} {a b : Nat} (hleft : IsSide false a left) (hright : IsSide true b right)
    (h : a + b ≤ 7) : IsVersion6Text (left ++ ':' :: ':' :: right)

theorem cutAtGap_eq_some {left right : List Char} (h : cutAtGap cs = some (left, right)) :
    cs = left ++ ':' :: ':' :: right := by
  fun_induction cutAtGap cs generalizing left with
  | case1 => cases h
  | case2 cs =>
    cases h
    rfl
  | case3 c cs hne ih =>
    simp only [Option.map_eq_some_iff, Prod.mk.injEq] at h
    obtain ⟨⟨l, r⟩, hcut, rfl, rfl⟩ := h
    rw [ih hcut]
    rfl

theorem head?_append_ne (hne : g ≠ []) (hcolon : ':' ∉ g) (rest : List Char) :
    (g ++ rest).head? ≠ some ':' := by
  obtain ⟨c, cs, rfl⟩ := List.exists_cons_of_ne_nil hne
  intro h
  obtain rfl := Option.some.inj h
  exact hcolon List.mem_cons_self

theorem cutAtGap_cons (h : c = ':' → cs.head? ≠ some ':') :
    cutAtGap (c :: cs) = (cutAtGap cs).map fun parts => (c :: parts.1, parts.2) := by
  rw [cutAtGap]
  rintro rest rfl rfl
  exact h rfl rfl

/-- In front of the first two colons nothing is lost. -/
theorem cutAtGap_append_of_not_mem (h : ':' ∉ g) (rest : List Char) :
    cutAtGap (g ++ rest) = (cutAtGap rest).map fun parts => (g ++ parts.1, parts.2) := by
  induction g with
  | nil => simp
  | cons c g ih =>
    have hc : c = ':' → (g ++ rest).head? ≠ some ':' := by
      rintro rfl
      exact absurd List.mem_cons_self h
    rw [List.cons_append, cutAtGap_cons hc, ih fun hg => h (List.mem_cons_of_mem _ hg)]
    simp [Function.comp_def]

theorem IsGroups.head?_append_ne (h : IsGroups tail n cs) (rest : List Char) :
    (cs ++ rest).head? ≠ some ':' := by
  cases h with
  | group hg => exact Ip.head?_append_ne (ne_nil_of_isGroup hg) (colon_not_mem_of_isGroup hg) rest
  | quad htail hq =>
    have hne := (IsGroups.quad htail hq).ne_nil
    exact Ip.head?_append_ne hne (colon_not_mem_of_isVersion4 hq) rest
  | cons hg h =>
    rw [List.append_assoc]
    exact Ip.head?_append_ne (ne_nil_of_isGroup hg) (colon_not_mem_of_isGroup hg) _

/-- Groups hold no two colons in a row, and do not end in one. -/
theorem IsGroups.cutAtGap_append (h : IsGroups tail n cs) (rest : List Char) :
    cutAtGap (cs ++ rest) = (cutAtGap rest).map fun parts => (cs ++ parts.1, parts.2) := by
  induction h with
  | group hg => exact cutAtGap_append_of_not_mem (colon_not_mem_of_isGroup hg) rest
  | quad htail hq => exact cutAtGap_append_of_not_mem (colon_not_mem_of_isVersion4 hq) rest
  | @cons n g cs hg h ih =>
    rw [List.append_assoc, cutAtGap_append_of_not_mem (colon_not_mem_of_isGroup hg), List.cons_append,
      cutAtGap_cons fun _ => h.head?_append_ne rest, ih]
    simp [Function.comp_def]

theorem IsSide.isGroupChar (h : IsSide tail n cs) : ∀ c ∈ cs, isGroupChar c = true := by
  rcases h with ⟨rfl, -⟩ | h
  · simp
  · exact h.isGroupChar

theorem IsSide.cutAtGap_append (h : IsSide tail n left) (right : List Char) :
    cutAtGap (left ++ ':' :: ':' :: right) = some (left, right) := by
  rcases h with ⟨rfl, -⟩ | h
  · rfl
  · rw [h.cutAtGap_append]
    simp [cutAtGap]

theorem hasEightGroups_iff : hasEightGroups cs = true ↔ IsVersion6Text cs := by
  constructor
  · intro h
    unfold hasEightGroups at h
    split at h
    · have hgroups := countGroups?_eq_some_iff.mp (of_decide_eq_true h)
      rcases hgroups with ⟨-, hn⟩ | hgroups
      · cases hn
      · exact .full hgroups
    · next left right hcut =>
      rw [cutAtGap_eq_some hcut]
      split at h
      · next a b hleft hright =>
        exact .gap (countGroups?_eq_some_iff.mp hleft) (countGroups?_eq_some_iff.mp hright)
          (of_decide_eq_true h)
      · cases h
  · rintro (h | @⟨left, right, a, b, hleft, hright, h⟩)
    · have hcut : cutAtGap cs = none := by
        have hnone := h.cutAtGap_append []
        rwa [List.append_nil] at hnone
      rw [hasEightGroups, hcut]
      exact decide_eq_true (countGroups?_eq_some_iff.mpr (.inr h))
    · rw [hasEightGroups, hleft.cutAtGap_append]
      simp only [countGroups?_eq_some_iff.mpr hleft, countGroups?_eq_some_iff.mpr hright, h,
        decide_true]

theorem isGroupChar_of_hasEightGroups (h : hasEightGroups cs = true) (hc : c ∈ cs) :
    isGroupChar c = true := by
  rcases hasEightGroups_iff.mp h with h | ⟨hleft, hright, -⟩
  · exact h.isGroupChar c hc
  · simp only [List.mem_append, List.mem_cons] at hc
    rcases hc with hc | rfl | rfl | hc
    · exact hleft.isGroupChar c hc
    · decide
    · decide
    · exact hright.isGroupChar c hc

/-- Between the groups of an address there are colons. -/
theorem colon_mem_of_hasEightGroups (h : hasEightGroups cs = true) : ':' ∈ cs := by
  rcases hasEightGroups_iff.mp h with h | ⟨-, -, -⟩
  · cases h with
    | cons hg h => simp
  · simp

/-! ## Zones -/

theorem percent_not_mem (h : IsVersion6Text cs) : '%' ∉ cs := by
  intro hmem
  exact absurd (isGroupChar_of_hasEightGroups (hasEightGroups_iff.mpr h) hmem) (by decide)

theorem isVersion6_of_not_mem (h : '%' ∉ cs) : isVersion6 cs = hasEightGroups cs := by
  have hdrop := List.dropWhile_eq_nil_iff.mpr (decide_ne_of_not_mem h)
  have htake := List.takeWhile_eq_self_iff.mpr (decide_ne_of_not_mem h)
  rw [isVersion6, hdrop, htake, Bool.and_true]

theorem isVersion6_append (h : '%' ∉ cs) (zone : List Char) :
    isVersion6 (cs ++ '%' :: zone) =
      (hasEightGroups cs && (decide (zone ≠ []) && !zone.contains '%')) := by
  have hall := decide_ne_of_not_mem h
  rw [isVersion6, List.takeWhile_append_of_pos hall, List.dropWhile_append_of_pos hall]
  simp

/-- No version 4 address is a version 6 address. -/
theorem not_isVersion4_of_isVersion6 (h : isVersion6 cs = true) : isVersion4 cs = false := by
  have hgroups := (Bool.and_eq_true_iff.mp h).1
  have hcolon : ':' ∈ cs :=
    (List.takeWhile_prefix _).subset (colon_mem_of_hasEightGroups hgroups)
  by_contra hfour
  exact colon_not_mem_of_isVersion4 (Bool.not_eq_false _ ▸ hfour) hcolon

theorem ne_of_isGroupChar (h : isGroupChar c = true) : c ≠ 'v' ∧ c ≠ ']' ∧ c ∉ marks := by
  have hnot : c ∉ 'v' :: ']' :: marks := not_mem_of_all (by decide) h
  simpa only [List.mem_cons, not_or] using hnot

/-- A version 6 address may stand in brackets. -/
theorem checkHost_of_isVersion6 (h : isVersion6 cs = true) : checkHost cs = .ok () := by
  have hgroups := (Bool.and_eq_true_iff.mp h).1
  have hfirst : cs.head? ≠ some 'v' := by
    intro hv
    cases cs with
    | nil => cases hv
    | cons c rest =>
      obtain rfl := Option.some.inj hv
      have hmem : 'v' ∈ ('v' :: rest).takeWhile (· ≠ '%') := by simp
      exact (ne_of_isGroupChar (isGroupChar_of_hasEightGroups hgroups hmem)).1 rfl
  simp [checkHost, hfirst, not_isVersion4_of_isVersion6 h, h]

end Ip

/-! ## Addresses -/

/-- A version 6 address, one with a zone, or an address of a future version. -/
inductive IsAddress : List Char → Prop
  | version6 {cs : List Char} (h : Ip.IsVersion6Text cs) : IsAddress cs
  | zoned {cs zone : List Char} (h : Ip.IsVersion6Text cs) (hne : zone ≠ []) (hzone : '%' ∉ zone) :
    IsAddress (cs ++ '%' :: zone)
  | future {digits rest : List Char} (hne : digits ≠ []) (hdigits : ∀ c ∈ digits, Ip.isHexDigit c = true)
    (hrest : rest ≠ []) : IsAddress ('v' :: (digits ++ '.' :: rest))

variable {host : List Char}

theorem isAddress_of_isVersion6 (h : Ip.isVersion6 host = true) : IsAddress host := by
  by_cases hmem : '%' ∈ host
  · rw [← append_before_after hmem] at h ⊢
    rw [Ip.isVersion6_append not_mem_before, Bool.and_eq_true, Bool.and_eq_true] at h
    obtain ⟨hgroups, hne, hzone⟩ := h
    exact .zoned (Ip.hasEightGroups_iff.mp hgroups) (of_decide_eq_true hne) (by simpa using hzone)
  · rw [Ip.isVersion6_of_not_mem hmem] at h
    exact .version6 (Ip.hasEightGroups_iff.mp h)

theorem isAddress_of_isFuture (h : Ip.isFuture host = true) : IsAddress host := by
  unfold Ip.isFuture at h
  split at h
  · next cs =>
    obtain ⟨hne, hrest⟩ := Bool.and_eq_true_iff.mp h
    split at hrest
    · next c rest hdrop =>
      have hparts := List.takeWhile_append_dropWhile (p := Ip.isHexDigit) (l := cs)
      rw [hdrop] at hparts
      rw [← hparts]
      exact .future (of_decide_eq_true hne) (fun d hd => List.mem_takeWhile_imp hd)
        (List.cons_ne_nil c rest)
    · cases hrest
  · cases h

theorem isFuture_append {digits rest : List Char} (hne : digits ≠ [])
    (hdigits : ∀ c ∈ digits, Ip.isHexDigit c = true) (hrest : rest ≠ []) :
    Ip.isFuture ('v' :: (digits ++ '.' :: rest)) = true := by
  obtain ⟨c, cs, rfl⟩ := List.exists_cons_of_ne_nil hrest
  have hpoint : ¬ Ip.isHexDigit '.' = true := by decide
  rw [Ip.isFuture, List.takeWhile_append_of_pos hdigits, List.dropWhile_append_of_pos hdigits,
    List.takeWhile_cons_of_neg hpoint, List.dropWhile_cons_of_neg hpoint]
  simp [hne]

/-- The hosts that may stand in brackets are the addresses. -/
theorem checkHost_eq_ok_iff : checkHost host = .ok () ↔ IsAddress host := by
  constructor
  · intro h
    unfold checkHost at h
    by_cases hfirst : host.head? = some 'v'
    · rw [if_pos hfirst] at h
      by_cases hfuture : Ip.isFuture host = true
      · exact isAddress_of_isFuture hfuture
      · rw [if_neg hfuture] at h
        cases h
    · rw [if_neg hfirst] at h
      by_cases hfour : Ip.isVersion4 host = true
      · rw [if_pos hfour] at h
        cases h
      · rw [if_neg hfour] at h
        by_cases hsix : Ip.isVersion6 host = true
        · exact isAddress_of_isVersion6 hsix
        · rw [if_neg hsix] at h
          cases h
  · intro h
    cases h with
    | version6 h =>
      refine Ip.checkHost_of_isVersion6 ?_
      rw [Ip.isVersion6_of_not_mem (Ip.percent_not_mem h)]
      exact Ip.hasEightGroups_iff.mpr h
    | zoned h hne hzone =>
      refine Ip.checkHost_of_isVersion6 ?_
      rw [Ip.isVersion6_append (Ip.percent_not_mem h), Ip.hasEightGroups_iff.mpr h]
      simp [hne, hzone]
    | future hne hdigits hrest =>
      rw [checkHost, List.head?_cons, if_pos rfl, if_pos (isFuture_append hne hdigits hrest)]

theorem IsAddress.ne_nil (h : IsAddress host) : host ≠ [] := by
  rintro rfl
  exact absurd (checkHost_eq_ok_iff.mpr h) (by decide)

end ObjectStorage.Url

import ObjectStorage.Proofs.Url.Address

/-!
# Authorities that can be read

* `HoldsAddress`: where the address of an authority with brackets stands, once the user is taken off.
* `IsReadable`: the brackets of an authority, its address and its characters are in order.
* `checkBrackets_eq_ok_iff`, `checkLookAlikes_eq_ok_iff`: what each check lets pass.
* `endpoint?_eq_ok_iff`, `exists_endpoint?_eq_error_iff`: the authority of a URL is read if it is readable, and
  else there is a fault.
-/

namespace ObjectStorage.Url

open ObjectStorage.Text

variable {cs host place authority url : List Char}

/-! ## Brackets -/

/-- A text with brackets around an address or, where the brackets stand in the user, with an address in
their place. -/
inductive HoldsAddress : List Char → Prop
  | bracketed {host behind : List Char} (hhost : IsAddress host) (hclose : ']' ∉ host)
    (hbehind : behind ≠ [] → behind.head? = some ':') : HoldsAddress ('[' :: (host ++ ']' :: behind))
  | unclosed {host : List Char} (hhost : IsAddress host) (hclose : ']' ∉ host) :
    HoldsAddress ('[' :: host)
  | bare {host behind : List Char} (hhost : IsAddress host) (hcolon : ':' ∉ host)
    (hopen : '[' ∉ host ++ behind) (hbehind : behind ≠ [] → behind.head? = some ':') :
    HoldsAddress (host ++ behind)

/-- The check of what stands behind the user of an authority with brackets. -/
def checkPlace (place : List Char) : Except AddressFault Unit :=
  if place.contains '[' then
    let inside := after '[' place
    let behind := after ']' inside
    if before '[' place ≠ [] || (behind ≠ [] && behind.head? ≠ some ':') then .error .brackets
    else checkHost (before ']' inside)
  else checkHost (before ':' place)

theorem checkBrackets_eq (authority : List Char) :
    checkBrackets authority =
      if authority.contains '[' ≠ authority.contains ']' then .error .brackets
      else if authority.contains '[' then checkPlace (withoutUser authority)
      else .ok () := rfl

theorem ite_error_eq_ok_iff {p : Prop} [Decidable p] {e : AddressFault}
    {rest : Except AddressFault Unit} :
    (if p then .error e else rest) = .ok () ↔ ¬ p ∧ rest = .ok () := by
  by_cases h : p
  · simp [h]
  · simp [h]

theorem checkPlace_of_mem (hopen : '[' ∈ place) :
    checkPlace place = .ok () ↔ before '[' place = [] ∧
      (after ']' (after '[' place) ≠ [] → (after ']' (after '[' place)).head? = some ':') ∧
      IsAddress (before ']' (after '[' place)) := by
  rw [checkPlace, if_pos (List.contains_iff_mem.mpr hopen), ite_error_eq_ok_iff, checkHost_eq_ok_iff]
  simp [and_assoc]

theorem checkPlace_of_not_mem (hopen : '[' ∉ place) :
    checkPlace place = .ok () ↔ IsAddress (before ':' place) := by
  rw [checkPlace, if_neg (mt List.contains_iff_mem.mp hopen), checkHost_eq_ok_iff]

theorem checkPlace_eq_ok_iff : checkPlace place = .ok () ↔ HoldsAddress place := by
  constructor
  · intro h
    by_cases hopen : '[' ∈ place
    · obtain ⟨hfront, hbehind, hhost⟩ := (checkPlace_of_mem hopen).mp h
      have hplace : '[' :: after '[' place = place := by
        rw [← append_before_after hopen, hfront]
        rfl
      rw [← hplace]
      by_cases hclose : ']' ∈ after '[' place
      · rw [← append_before_after hclose]
        exact .bracketed hhost not_mem_before hbehind
      · rw [before_of_not_mem hclose] at hhost
        exact .unclosed hhost hclose
    · have hhost := (checkPlace_of_not_mem hopen).mp h
      obtain ⟨behind, hparts, hbehind⟩ := exists_before_append ':' place
      have hbare := HoldsAddress.bare hhost not_mem_before (hparts.symm ▸ hopen) hbehind
      rwa [hparts] at hbare
  · rintro (@⟨host, behind, hhost, hclose, hbehind⟩ | @⟨host, hhost, hclose⟩ |
      @⟨host, behind, hhost, hcolon, hopen, hbehind⟩)
    · refine (checkPlace_of_mem List.mem_cons_self).mpr ⟨rfl, ?_⟩
      rw [after_cons, after_append hclose, before_append hclose]
      exact ⟨hbehind, hhost⟩
    · refine (checkPlace_of_mem List.mem_cons_self).mpr ⟨rfl, ?_⟩
      rw [after_cons, after_of_not_mem hclose, before_of_not_mem hclose]
      exact ⟨fun hne => absurd rfl hne, hhost⟩
    · refine (checkPlace_of_not_mem hopen).mpr ?_
      rwa [before_append_of_head? hcolon hbehind]

theorem holdsAddress_bracketed_iff {behind : List Char} (hclose : ']' ∉ host)
    (hbehind : behind ≠ [] → behind.head? = some ':') :
    HoldsAddress ('[' :: (host ++ ']' :: behind)) ↔ IsAddress host := by
  rw [← checkPlace_eq_ok_iff, checkPlace_of_mem List.mem_cons_self, after_cons, before_append hclose,
    after_append hclose]
  exact ⟨fun h => h.2.2, fun h => ⟨rfl, hbehind, h⟩⟩

theorem checkBrackets_eq_ok_iff :
    checkBrackets authority = .ok () ↔ ('[' ∈ authority ↔ ']' ∈ authority) ∧
      ('[' ∈ authority → HoldsAddress (withoutUser authority)) := by
  have hpaired : ¬ authority.contains '[' ≠ authority.contains ']' ↔
      ('[' ∈ authority ↔ ']' ∈ authority) := by
    rw [not_not, Bool.eq_iff_iff, List.contains_iff_mem, List.contains_iff_mem]
  rw [checkBrackets_eq, ite_error_eq_ok_iff, hpaired]
  by_cases hopen : '[' ∈ authority
  · rw [if_pos (List.contains_iff_mem.mpr hopen), checkPlace_eq_ok_iff]
    simp [hopen]
  · rw [if_neg (mt List.contains_iff_mem.mp hopen)]
    simp [hopen]

/-! ## Authorities -/

/-- An authority that can be read: it has both brackets or none, with brackets it holds an address behind
its last `@`, and no character looks like a delimiter. -/
structure IsReadable (authority : List Char) : Prop where
  paired : '[' ∈ authority ↔ ']' ∈ authority
  address : '[' ∈ authority → ∀ user place, authority = marked '@' user ++ place → '@' ∉ place →
    HoldsAddress place
  distinct : ∀ c ∈ authority, c ∉ lookAlikes

theorem checkLookAlikes_eq_ok_iff :
    checkLookAlikes authority = .ok () ↔ ∀ c ∈ authority, c ∉ lookAlikes := by
  rw [checkLookAlikes, ite_error_eq_ok_iff]
  simp

theorem isReadable_iff :
    IsReadable authority ↔ checkBrackets authority = .ok () ∧ checkLookAlikes authority = .ok () := by
  rw [checkBrackets_eq_ok_iff, checkLookAlikes_eq_ok_iff]
  constructor
  · intro h
    refine ⟨⟨h.paired, fun hopen => ?_⟩, h.distinct⟩
    obtain ⟨user, huser⟩ := exists_user authority
    exact h.address hopen user _ huser (not_mem_withoutUser authority)
  · rintro ⟨⟨hpaired, haddress⟩, hdistinct⟩
    refine ⟨hpaired, fun hopen user place hparts hplace => ?_, hdistinct⟩
    have hbehind := haddress hopen
    rwa [hparts, withoutUser_marked hplace] at hbehind

/-- The authority of a URL is read if it is readable. -/
theorem endpoint?_eq_ok_iff {parts : List Char × List Char} :
    endpoint? url = .ok parts ↔
      IsReadable (Url.authority url) ∧ hostAndPort (Url.authority url) = parts := by
  rw [isReadable_iff, endpoint?]
  cases checkBrackets (Url.authority url) with
  | error e => simp [bind, Except.bind]
  | ok u =>
    cases checkLookAlikes (Url.authority url) with
    | error e => simp [bind, Except.bind]
    | ok u => simp [bind, Except.bind, pure, Except.pure]

/-- There is a fault exactly if the authority of a URL is not readable. -/
theorem exists_endpoint?_eq_error_iff :
    (∃ e, endpoint? url = .error e) ↔ ¬ IsReadable (Url.authority url) := by
  constructor
  · rintro ⟨e, he⟩ hreadable
    rw [endpoint?_eq_ok_iff.mpr ⟨hreadable, rfl⟩] at he
    cases he
  · intro hnot
    cases hends : endpoint? url with
    | error e => exact ⟨e, rfl⟩
    | ok parts => exact absurd (endpoint?_eq_ok_iff.mp hends).1 hnot

/-- Without brackets and characters that look like a delimiter, an authority is readable. -/
theorem isReadable_of_not_mem (hopen : '[' ∉ authority) (hclose : ']' ∉ authority)
    (hdistinct : ∀ c ∈ authority, c ∉ lookAlikes) : IsReadable authority where
  paired := ⟨fun h => absurd h hopen, fun h => absurd h hclose⟩
  address h := absurd h hopen
  distinct := hdistinct

/-- With a host in brackets, and no user, an authority is readable if the host is an address. -/
theorem isReadable_bracketed_iff {behind : List Char} (hclose : ']' ∉ host)
    (hbehind : behind ≠ [] → behind.head? = some ':') (hat : '@' ∉ '[' :: (host ++ ']' :: behind))
    (hdistinct : ∀ c ∈ '[' :: (host ++ ']' :: behind), c ∉ lookAlikes) :
    IsReadable ('[' :: (host ++ ']' :: behind)) ↔ IsAddress host := by
  have hopened : '[' ∈ '[' :: (host ++ ']' :: behind) := List.mem_cons_self
  have hclosed : ']' ∈ '[' :: (host ++ ']' :: behind) := by simp
  rw [isReadable_iff, checkBrackets_eq_ok_iff, checkLookAlikes_eq_ok_iff, withoutUser_of_not_mem hat,
    holdsAddress_bracketed_iff hclose hbehind]
  exact ⟨fun h => h.1.2 hopened, fun h => ⟨⟨iff_of_true hopened hclosed, fun _ => h⟩, hdistinct⟩⟩

end ObjectStorage.Url

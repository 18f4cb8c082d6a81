import ObjectStorage.Proofs.Url.Parts
import ObjectStorage.Proxy

/-!
# Completed addresses and what is accepted of them

* `holds_iff_isInfix`: a mark is looked for anywhere in a text.
* `IsUrlOf`, `isUrlOf_iff`: the URL of an address.
* `complete_complete`: it is its own URL.
* `url_eq_ok_iff`: an address is accepted exactly if a host and a port are read off its URL.
* `exists_parts_of_url`: the grammar of what is accepted, up to what does not count in a URL.
* `url_eq_of_isReadable`: where the URL can be read, an address is accepted or called invalid.
* `url_url`: what is accepted is accepted again, unchanged.
-/

namespace ObjectStorage.Proxy

open ObjectStorage.Url

variable {address u : String}

/-! ## Completed addresses -/

theorem holds_iff_isInfix {mark cs : List Char} : holds mark cs = true ↔ mark <:+: cs := by
  induction cs with
  | nil => rw [holds, List.isEmpty_iff, List.infix_nil]
  | cons c cs ih =>
    rw [holds, Bool.or_eq_true, List.isPrefixOf_iff_prefix, ih, List.infix_cons_iff]

/-- The URL of an address: the address if it holds the mark behind a scheme, and else with a scheme in
front. -/
inductive IsUrlOf (address : String) : String → Prop
  | whole (h : schemeMark <:+: address.toList) : IsUrlOf address address
  | bare (h : ¬ schemeMark <:+: address.toList) : IsUrlOf address ("http://" ++ address)

theorem isUrlOf_complete (address : String) : IsUrlOf address (complete address) := by
  unfold complete
  by_cases hmark : holds schemeMark address.toList = true
  · rw [if_pos hmark]
    exact .whole (holds_iff_isInfix.mp hmark)
  · rw [if_neg hmark]
    exact .bare (mt holds_iff_isInfix.mpr hmark)

theorem isUrlOf_iff : IsUrlOf address u ↔ u = complete address := by
  constructor
  · rintro (hmark | hmark)
    · rw [complete, if_pos (holds_iff_isInfix.mpr hmark)]
    · rw [complete, if_neg (mt holds_iff_isInfix.mp hmark)]
  · rintro rfl
    exact isUrlOf_complete address

theorem IsUrlOf.isInfix (h : IsUrlOf address u) : schemeMark <:+: u.toList := by
  rcases h with hmark | -
  · exact hmark
  · refine ⟨['h', 't', 't', 'p'], address.toList, ?_⟩
    rw [String.toList_append]
    rfl

/-- A completed address is its own URL. -/
theorem complete_complete (address : String) : complete (complete address) = complete address :=
  (isUrlOf_iff.mp (.whole (isUrlOf_complete address).isInfix)).symm

/-! ## Accepted addresses -/

/-- An address is accepted exactly if a host and a port are read off its URL. -/
theorem url_eq_ok_iff : url address = .ok u ↔ u = complete address ∧
    ∃ host port, endpoint? u.toList = .ok (host, port) ∧ host ≠ [] ∧ IsPortText port := by
  constructor
  · intro h
    obtain rfl := url_eq_complete h
    refine ⟨rfl, ?_⟩
    unfold url at h
    cases hends : endpoint? (complete address).toList with
    | error e =>
      rw [hends] at h
      cases h
    | ok parts =>
      obtain ⟨host, port⟩ := parts
      simp only [hends] at h
      by_cases hboth : (decide (host ≠ []) && isPort port) = true
      · obtain ⟨hhost, hport⟩ := Bool.and_eq_true_iff.mp hboth
        exact ⟨host, port, rfl, of_decide_eq_true hhost, isPortText_iff.mpr hport⟩
      · rw [if_neg hboth] at h
        cases h
  · rintro ⟨rfl, host, port, hends, hhost, hport⟩
    have hboth : (decide (host ≠ []) && isPort port) = true :=
      Bool.and_eq_true_iff.mpr ⟨decide_eq_true hhost, isPortText_iff.mp hport⟩
    unfold url
    rw [hends]
    exact if_pos hboth

/-- What is accepted is, but for what does not count, the text of parts. -/
theorem exists_parts_of_url (h : url address = .ok u) :
    ∃ p : Parts, p.WellFormed ∧ (p.IsNamed ∨ ∃ inside, p.IsBracketed inside) ∧
      p.text = clean u.toList := by
  obtain ⟨-, host, port, hends, hhost, hport⟩ := url_eq_ok_iff.mp h
  exact exists_parts hends hhost hport

/-- Where the URL can be read, the address is accepted or called invalid. -/
theorem url_eq_of_isReadable (h : IsReadable (authority (complete address).toList)) :
    url address = .ok (complete address) ∨ url address = .error (.configuration (fault address)) := by
  have hends := endpoint?_eq_ok_iff.mpr ⟨h, rfl⟩
  unfold url
  rw [hends]
  dsimp only
  split
  · exact .inl rfl
  · exact .inr rfl

/-- Where it cannot, there is another fault. -/
theorem exists_url_eq_of_not_isReadable (h : ¬ IsReadable (authority (complete address).toList)) :
    ∃ e, url address = .error (.address e) := by
  obtain ⟨e, he⟩ := exists_endpoint?_eq_error_iff.mpr h
  refine ⟨e, ?_⟩
  unfold url
  rw [he]

/-- What is accepted is accepted again, unchanged. -/
theorem url_url (h : url address = .ok u) : url u = .ok u := by
  obtain ⟨hu, hparts⟩ := url_eq_ok_iff.mp h
  refine url_eq_ok_iff.mpr ⟨?_, hparts⟩
  rw [hu, complete_complete]

end ObjectStorage.Proxy

import ObjectStorage.Client.Endpoint
import ObjectStorage.Proofs.Url.Readable

/-!
# Endpoints that requests can be sent to

* `Endpoint.IsPlain`: a URL of a scheme and a host, the host a name or an address in brackets.
* `Url.endpoint?_name`, `Url.endpoint?_address`: both stand for themselves, without a port.
* `Endpoint.check_of_isPlain`: requests can be sent to a plain URL.
-/

namespace ObjectStorage

open ObjectStorage.Text ObjectStorage.Url

/-! ## Hosts -/

namespace Url

variable {cs scheme place : List Char}

/-- A host without marks, colons and brackets stands for itself, without a port. -/
theorem endpoint?_name (hs : isScheme scheme = true) (hp : ∀ c ∈ place, c ∉ marks)
    (hcolon : ':' ∉ place) (hopen : '[' ∉ place) (hclose : ']' ∉ place) :
    endpoint? (scheme ++ ':' :: '/' :: '/' :: place) = .ok (place, []) := by
  have huser : withoutUser place = place := withoutUser_of_not_mem fun h => hp _ h (by decide)
  have hplace : '[' ∉ withoutUser place := by rwa [huser]
  refine endpoint?_eq_ok_iff.mpr ?_
  rw [authority_append hs hp, hostAndPort_of_not_mem hplace, huser, before_of_not_mem hcolon,
    after_of_not_mem hcolon]
  exact ⟨isReadable_of_not_mem hopen hclose (not_mem_lookAlikes_of_not_mem_marks hp), rfl⟩

/-- An address in brackets is the host, without a port. -/
theorem endpoint?_address (hs : isScheme scheme = true) (hp : ∀ c ∈ cs, c ∉ marks)
    (hclose : ']' ∉ cs) (haddress : IsAddress cs) :
    endpoint? (scheme ++ ':' :: '/' :: '/' :: ('[' :: cs ++ [']'])) = .ok (cs, []) := by
  have hplace : ∀ c ∈ '[' :: cs ++ [']'], c ∉ marks := not_mem_marks_bracketed hp (by simp)
  have huser : '@' ∉ '[' :: cs ++ [']'] := fun h => hplace _ h (by decide)
  have hlook := not_mem_lookAlikes_of_not_mem_marks hplace
  refine endpoint?_eq_ok_iff.mpr ?_
  rw [authority_append hs hplace]
  exact ⟨(isReadable_bracketed_iff hclose (fun h => absurd rfl h) huser hlook).mpr haddress,
    hostAndPort_bracketed hclose huser⟩

end Url

/-! ## Plain endpoints -/

namespace Endpoint

variable {c : Char} {cs : List Char}

/-- A URL of a scheme and a host: a name, or an address in brackets. -/
inductive IsPlain : String → Prop
  | name {scheme host : String} (hscheme : isScheme scheme.toList = true)
    (hhost : isHostName host.toList = true) : IsPlain (scheme ++ "://" ++ host)
  | address {scheme host : String} (hscheme : isScheme scheme.toList = true)
    (hhost : isHostAddress host.toList = true) : IsPlain (scheme ++ "://[" ++ host ++ "]")

theorem ne_of_isHostChar (h : isHostChar c = true) : c ∉ [':', '[', ']'] ∧ c ∉ marks := by
  have hnot : c ∉ [':', '[', ']'] ++ marks := not_mem_of_all (by decide) h
  simpa only [List.mem_append, not_or] using hnot

theorem isHostChar_of_isHostName (h : isHostName cs = true) (hc : c ∈ cs) :
    c = '.' ∨ isHostChar c = true := by
  have hlabels := (Bool.and_eq_true_iff.mp h).2
  have hchar : ∀ c ∈ withoutFinalPoint cs, c = '.' ∨ isHostChar c = true := fun c hc => by
    rcases mem_piece_of_mem '.' hc with hpoint | ⟨label, hlabel, hmem⟩
    · exact .inl hpoint
    · have hall := List.all_eq_true.mp hlabels label hlabel
      simp only [isHostLabel, Bool.and_eq_true] at hall
      exact .inr (List.all_eq_true.mp hall.1.1.2 c hmem)
  unfold withoutFinalPoint at hchar
  split at hchar
  · next hlast =>
    -- the point at the end is the one character that is left out
    rcases mem_dropLast_or_getLast? hc with hc | hc
    · exact hchar c hc
    · exact .inl (Option.some.inj (hc.symm.trans hlast))
  · exact hchar c hc

theorem ne_of_isHostName (h : isHostName cs = true) (hc : c ∈ cs) : c ∉ [':', '[', ']'] ∧ c ∉ marks := by
  rcases isHostChar_of_isHostName h hc with rfl | hchar
  · decide
  · exact ne_of_isHostChar hchar

theorem ne_of_isZoneChar (h : isZoneChar c = true) : c ≠ ']' ∧ c ∉ marks := by
  have hnot : c ∉ ']' :: marks := not_mem_of_all (by decide) h
  simpa only [List.mem_cons, not_or] using hnot

theorem ne_of_isHostAddress (h : isHostAddress cs = true) (hc : c ∈ cs) : c ≠ ']' ∧ c ∉ marks := by
  obtain ⟨hsix, hzone⟩ := Bool.and_eq_true_iff.mp h
  have hgroups := (Bool.and_eq_true_iff.mp hsix).1
  have hparts := List.takeWhile_append_dropWhile (p := fun d => decide (d ≠ '%')) (l := cs)
  rw [← hparts, List.mem_append] at hc
  rcases hc with hc | hc
  · exact (Ip.ne_of_isGroupChar (Ip.isGroupChar_of_hasEightGroups hgroups hc)).2
  · -- the sign in front of the zone, or a character of the zone
    cases hdrop : cs.dropWhile (fun d => decide (d ≠ '%')) with
    | nil => rw [hdrop] at hc; cases hc
    | cons d zone =>
      have hd : d = '%' := by
        have hnot := List.head?_dropWhile_not (fun d => decide (d ≠ '%')) cs
        rw [hdrop] at hnot
        simpa using hnot
      rw [hdrop] at hc
      rcases List.mem_cons.mp hc with rfl | hc
      · subst hd
        decide
      · rw [after, hdrop] at hzone
        exact ne_of_isZoneChar (List.all_eq_true.mp hzone c hc)

theorem check_of_endpoint? {url : String} {scheme place host : List Char}
    (hurl : url.toList = scheme ++ ':' :: '/' :: '/' :: place) (hscheme : isScheme scheme = true)
    (hplace : ∀ c ∈ place, c ∉ marks)
    (hends : endpoint? (scheme ++ ':' :: '/' :: '/' :: place) = .ok (host, []))
    (hhost : (isHostName host || isHostAddress host) = true) : check (some url) = .ok () := by
  simp only [check, hurl, isUnbroken_append hscheme hplace, hends, hhost]
  rfl

/-- Requests can be sent to a plain URL. -/
theorem check_of_isPlain {url : String} (h : IsPlain url) : check (some url) = .ok () := by
  cases h with
  | @name scheme host hscheme hhost =>
    have hmarks : ∀ c ∈ host.toList, c ∉ marks := fun c hc => (ne_of_isHostName hhost hc).2
    have hends : endpoint? (scheme.toList ++ ':' :: '/' :: '/' :: host.toList) =
        .ok (host.toList, []) := by
      refine endpoint?_name hscheme hmarks ?_ ?_ ?_ <;>
        exact fun hc => (ne_of_isHostName hhost hc).1 (by decide)
    exact check_of_endpoint? (by simp) hscheme hmarks hends (by simp [hhost])
  | @address scheme host hscheme hhost =>
    have hmarks : ∀ c ∈ host.toList, c ∉ marks := fun c hc => (ne_of_isHostAddress hhost hc).2
    have hclose : ']' ∉ host.toList := fun hc => (ne_of_isHostAddress hhost hc).1 rfl
    have hsix := (Bool.and_eq_true_iff.mp hhost).1
    exact check_of_endpoint? (by simp) hscheme (not_mem_marks_bracketed hmarks (by simp))
      (endpoint?_address hscheme hmarks hclose (isAddress_of_isVersion6 hsix)) (by simp [hhost])

end Endpoint

end ObjectStorage

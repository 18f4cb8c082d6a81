import ObjectStorage.Proofs.Url.Readable

/-!
# The grammar of URLs with a host and a port

* `IsSchemeText`, `IsPortText`: what a scheme and a port are written as.
* `Parts`, `Parts.text`: `scheme://user@host:port` and what comes behind it, where the scheme and the user
  may be missing.
* `Parts.WellFormed`: no part holds what ends it.
* `Parts.IsNamed`, `Parts.IsBracketed`: the host is a name, or stands in brackets.
* `Parts.WellFormed.head?_text`: the text of parts begins with a scheme, or with two slashes.
* `Parts.authority_eq`, `Parts.hostAndPort_of_isNamed`: the parts are read off their text.
* `exists_parts`: a URL that a host and a port were read off is the text of parts.
-/

namespace ObjectStorage.Url

open ObjectStorage.Text

/-! ## Schemes and ports -/

/-- A letter followed by letters, digits, `+`, `-` and `.`. -/
inductive IsSchemeText : List Char → Prop
  | intro {c : Char} {cs : List Char} (hletter : c.isAlpha = true)
    (hrest : ∀ d ∈ cs, d.isAlpha = true ∨ d.isDigit = true ∨ d ∈ ['+', '-', '.']) :
    IsSchemeText (c :: cs)

theorem isSchemeText_iff {scheme : List Char} : IsSchemeText scheme ↔ isScheme scheme = true := by
  have hchar (c : Char) :
      isSchemeChar c = true ↔ c.isAlpha = true ∨ c.isDigit = true ∨ c ∈ ['+', '-', '.'] := by
    simp [isSchemeChar, isLetter, Numeral.isDigit, or_assoc]
  constructor
  · rintro @⟨c, cs, hletter, hrest⟩
    refine Bool.and_eq_true_iff.mpr ⟨hletter, List.all_eq_true.mpr fun d hd => ?_⟩
    exact (hchar d).mpr (hrest d hd)
  · intro h
    obtain _ | ⟨c, cs⟩ := scheme
    · cases h
    · obtain ⟨hletter, hrest⟩ := Bool.and_eq_true_iff.mp h
      exact .intro hletter fun d hd => (hchar d).mp (List.all_eq_true.mp hrest d hd)

/-- One to 4300 digits whose number is at most 65535. -/
structure IsPortText (port : List Char) : Prop where
  nonempty : port ≠ []
  length_le : port.length ≤ 4300
  digits : ∀ c ∈ port, c.isDigit = true
  value_le : Numeral.value port ≤ 65535

theorem isPortText_iff {port : List Char} : IsPortText port ↔ isPort port = true := by
  have hport : isPort port = true ↔ ((port ≠ [] ∧ port.length ≤ 4300) ∧
      ∀ c ∈ port, c.isDigit = true) ∧ Numeral.value port ≤ 65535 := by
    simp only [isPort, Bool.and_eq_true, decide_eq_true_eq, List.all_eq_true]
    rfl
  rw [hport]
  exact ⟨fun h => ⟨⟨⟨h.nonempty, h.length_le⟩, h.digits⟩, h.value_le⟩,
    fun ⟨⟨⟨hne, hlength⟩, hdigits⟩, hvalue⟩ => ⟨hne, hlength, hdigits, hvalue⟩⟩

theorem IsPortText.not_mem {port : List Char} (h : IsPortText port) {c : Char}
    (hc : c.isDigit = false) : c ∉ port := by
  intro hmem
  rw [h.digits c hmem] at hc
  cases hc

/-! ## Parts -/

/-- The parts of a URL with a host and a port; the brackets around a host belong to it. -/
structure Parts where
  scheme : Option (List Char)
  user : Option (List Char)
  host : List Char
  port : List Char
  tail : List Char

namespace Parts

/-- `user@host:port`. -/
def authority (p : Parts) : List Char := marked '@' p.user ++ (p.host ++ ':' :: p.port)

/-- `scheme://user@host:port` and what comes behind it. -/
def text (p : Parts) : List Char := marked ':' p.scheme ++ '/' :: '/' :: (p.authority ++ p.tail)

/-- Scheme and port are written as such, no user holds what ends an authority, and what comes behind the
port ends it. -/
structure WellFormed (p : Parts) : Prop where
  scheme : ∀ s, p.scheme = some s → IsSchemeText s
  user : ∀ u, p.user = some u → ∀ c ∈ u, c ∉ ['/', '?', '#']
  port : IsPortText p.port
  tail : ∀ c, p.tail.head? = some c → c ∈ ['/', '?', '#']

/-- The host is a text without marks and colons. -/
structure IsNamed (p : Parts) : Prop where
  nonempty : p.host ≠ []
  distinct : ∀ c ∈ p.host, c ∉ ['/', '?', '#', '@', ':']

/-- The host is a text in brackets, without marks. -/
structure IsBracketed (p : Parts) (inside : List Char) : Prop where
  host : p.host = '[' :: (inside ++ [']'])
  nonempty : inside ≠ []
  distinct : ∀ c ∈ inside, c ∉ ['/', '?', '#', '@', ']']

variable {p : Parts}

/-! ## Reading parts -/

theorem IsNamed.endsAuthority_eq_false (h : p.IsNamed) : ∀ c ∈ p.host, endsAuthority c = false :=
  fun c hc => endsAuthority_eq_false_iff.mpr fun hmem =>
    h.distinct c hc (List.mem_append_left ['@', ':'] hmem)

/-- No part up to the port ends the authority, if the host does not. -/
theorem WellFormed.endsAuthority_eq_false (h : p.WellFormed)
    (hhost : ∀ c ∈ p.host, endsAuthority c = false) : ∀ c ∈ p.authority, endsAuthority c = false := by
  intro c hc
  rcases List.mem_append.mp hc with hc | hc
  · cases huser : p.user with
    | none =>
      rw [huser] at hc
      cases hc
    | some user =>
      rw [huser] at hc
      rcases List.mem_append.mp hc with hc | hc
      · exact endsAuthority_eq_false_iff.mpr (h.user user huser c hc)
      · rw [List.mem_singleton.mp hc]
        rfl
  · rcases List.mem_append.mp hc with hc | hc
    · exact hhost c hc
    · rcases List.mem_cons.mp hc with rfl | hc
      · rfl
      · exact endsAuthority_eq_false_iff.mpr (not_mem_of_all (by decide) (h.port.digits c hc))

/-- The text of parts begins with a letter if they have a scheme, and else with a slash. -/
theorem WellFormed.head?_text (h : p.WellFormed) :
    (p.scheme = none ∧ p.text.head? = some '/') ∨
      (p.scheme ≠ none ∧ ∃ c, p.text.head? = some c ∧ c.isAlpha = true) := by
  unfold text
  cases hscheme : p.scheme with
  | none => exact .inl ⟨rfl, rfl⟩
  | some scheme =>
    obtain @⟨c, cs, hletter, -⟩ := h.scheme scheme hscheme
    exact .inr ⟨Option.some_ne_none _, c, rfl, hletter⟩

/-- The authority of a URL that is the text of parts but for what does not count. -/
theorem authority_eq {url : List Char} (h : p.WellFormed)
    (hhost : ∀ c ∈ p.host, endsAuthority c = false) (htext : clean url = p.text) :
    Url.authority url = p.authority :=
  authority_marked (fun s hs => isSchemeText_iff.mp (h.scheme s hs)) (h.endsAuthority_eq_false hhost)
    (fun c hc => endsAuthority_iff.mpr (h.tail c hc)) htext

theorem WellFormed.not_mem_place (h : p.WellFormed) {c : Char} (hhost : c ∉ p.host) (hcolon : c ≠ ':')
    (hdigit : c.isDigit = false) : c ∉ p.host ++ ':' :: p.port := by
  intro hc
  rcases List.mem_append.mp hc with hc | hc
  · exact hhost hc
  · rcases List.mem_cons.mp hc with hc | hc
    · exact hcolon hc
    · exact h.port.not_mem hdigit hc

/-- A host that is a name stands in front of a colon. -/
theorem hostAndPort_of_isNamed (h : p.WellFormed) (hname : p.IsNamed) (hopen : '[' ∉ p.host) :
    hostAndPort p.authority = (p.host, p.port) := by
  have hcolon : ':' ∉ p.host := fun hc => hname.distinct _ hc (by decide)
  have hat : '@' ∉ p.host := fun hc => hname.distinct _ hc (by decide)
  have huser : withoutUser p.authority = p.host ++ ':' :: p.port :=
    withoutUser_marked (h.not_mem_place hat (by decide) (by decide)) p.user
  have hplace : '[' ∉ withoutUser p.authority := by
    rw [huser]
    exact h.not_mem_place hopen (by decide) (by decide)
  rw [hostAndPort_of_not_mem hplace, huser, before_append hcolon, after_append hcolon]

end Parts

/-! ## Finding parts -/

/-- The place of a host and a port that were read: the host is a name, or stands in brackets. -/
theorem exists_place {authority host port : List Char} (h : IsReadable authority)
    (hparts : hostAndPort authority = (host, port)) (hport : port ≠ []) :
    ∃ text, withoutUser authority = text ++ ':' :: port ∧
      (text = host ∧ ':' ∉ host ∨ text = '[' :: (host ++ [']']) ∧ ']' ∉ host) := by
  obtain ⟨user, huser⟩ := exists_user authority
  by_cases hopen : '[' ∈ withoutUser authority
  · have hmem : '[' ∈ authority := by
      rw [huser]
      exact List.mem_append_right _ hopen
    have haddress := h.address hmem user _ huser (not_mem_withoutUser authority)
    rw [hostAndPort_of_mem hopen, Prod.mk.injEq] at hparts
    obtain ⟨rfl, rfl⟩ := hparts
    generalize withoutUser authority = place at haddress hopen hport ⊢
    rcases haddress with @⟨inside, behind, -, hclose, hbehind⟩ | @⟨inside, -, hclose⟩ |
      ⟨-, -, hnone, -⟩
    · rw [after_cons, after_append hclose] at hport ⊢
      rw [before_append hclose]
      have hne : behind ≠ [] := by
        rintro rfl
        exact hport rfl
      obtain ⟨rest, rfl⟩ := List.head?_eq_some_iff.mp (hbehind hne)
      rw [after_cons]
      exact ⟨_, by simp, .inr ⟨rfl, hclose⟩⟩
    · rw [after_cons, after_of_not_mem hclose] at hport
      exact absurd rfl hport
    · exact absurd hopen hnone
  · rw [hostAndPort_of_not_mem hopen, Prod.mk.injEq] at hparts
    obtain ⟨rfl, rfl⟩ := hparts
    have hcolon : ':' ∈ withoutUser authority := by
      by_contra hnone
      exact hport (after_of_not_mem hnone)
    exact ⟨_, (append_before_after hcolon).symm, .inl ⟨rfl, not_mem_before⟩⟩

/-- A URL that a host and a port were read off is, but for what does not count, the text of parts. -/
theorem exists_parts {url host port : List Char} (h : endpoint? url = .ok (host, port))
    (hhost : host ≠ []) (hport : IsPortText port) :
    ∃ p : Parts, p.WellFormed ∧ (p.IsNamed ∨ ∃ inside, p.IsBracketed inside) ∧ p.text = clean url := by
  obtain ⟨hreadable, hparts⟩ := endpoint?_eq_ok_iff.mp h
  have hne : Url.authority url ≠ [] := by
    intro hnil
    rw [hnil] at hparts
    exact hhost (congrArg Prod.fst hparts).symm
  obtain ⟨scheme, tail, hscheme, hends, htail, hurl⟩ := exists_authority hne
  obtain ⟨user, huser⟩ := exists_user (Url.authority url)
  obtain ⟨text, hplace, htext⟩ := exists_place hreadable hparts hport.nonempty
  rw [hplace] at huser
  have hnone : ∀ c ∈ Url.authority url, c ∉ ['/', '?', '#'] := fun c hc =>
    endsAuthority_eq_false_iff.mp (hends c hc)
  have hmarks : ∀ c ∈ text, c ∉ ['/', '?', '#', '@'] := by
    intro c hc
    have hbehind : c ∈ text ++ ':' :: port := List.mem_append_left _ hc
    have hat : c ≠ '@' := by
      rintro rfl
      exact not_mem_withoutUser (Url.authority url) (hplace ▸ hbehind)
    have hdelimiter := hnone c (huser ▸ List.mem_append_right _ hbehind)
    simpa [hat] using hdelimiter
  refine ⟨⟨scheme, user, text, port, tail⟩,
    ⟨fun s hs => isSchemeText_iff.mpr (hscheme s hs), ?_, hport, fun c hc => ?_⟩, ?_, ?_⟩
  · rintro u rfl c hc
    exact hnone c (huser ▸ List.mem_append_left _ (List.mem_append_left _ hc))
  · exact endsAuthority_iff.mp (htail c hc)
  · rcases htext with ⟨rfl, hcolon⟩ | ⟨rfl, hclose⟩
    · refine .inl ⟨hhost, fun c hc => ?_⟩
      have hne : c ≠ ':' := fun h => hcolon (h ▸ hc)
      simpa [hne] using hmarks c hc
    · refine .inr ⟨host, rfl, hhost, fun c hc => ?_⟩
      have hne : c ≠ ']' := fun h => hclose (h ▸ hc)
      have hinside : c ∈ '[' :: (host ++ [']']) := by simp [hc]
      simpa [hne] using hmarks c hinside
  · rw [hurl, huser]
    rfl

end ObjectStorage.Url

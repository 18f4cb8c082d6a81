import ObjectStorage.Proofs.Proxy.Completion

/-!
# The grammar of proxy addresses

* `IsSimple`: a text of ASCII characters without breaks and brackets.
* `lessFront`: a text less the blanks and controls in front of it.
* `exists_url_eq_ok_iff_named`: a simple address is accepted exactly if its URL, less its front, is made of
  parts, the host a name.
* `url_bracketed_eq_ok_iff`: a host in brackets, with a port, is accepted exactly if it is an address.
* `url_grammar`: both, and what is accepted is accepted again, unchanged.
* `not_forall_grammar`: not every text in brackets is accepted, and not only what is made of parts.
-/

namespace ObjectStorage.Proxy

open ObjectStorage.Text ObjectStorage.Url

variable {address : String} {cs : List Char}

/-! ## Simple addresses -/

/-- A text of ASCII characters, without breaks and brackets. -/
def IsSimple (cs : List Char) : Prop := ∀ c ∈ cs, c.toNat < 128 ∧ c ∉ ['\t', '\r', '\n', '[', ']']

theorem not_mem_lookAlikes_of_lt {c : Char} (h : c.toNat < 128) : c ∉ lookAlikes := by
  intro hc
  have hall : ∀ d ∈ lookAlikes, 128 ≤ d.toNat := by simp [lookAlikes]
  have hlarge := hall c hc
  omega

theorem IsSimple.of_isUrlOf {u : String} (h : IsSimple address.toList) (hu : IsUrlOf address u) :
    IsSimple u.toList := by
  rcases hu with - | -
  · exact h
  · intro c hc
    rw [String.toList_append] at hc
    rcases List.mem_append.mp hc with hc | hc
    · have hall : IsSimple "http://".toList := by simp [IsSimple]
      exact hall c hc
    · exact h c hc

theorem IsSimple.complete (h : IsSimple address.toList) : IsSimple (complete address).toList :=
  h.of_isUrlOf (isUrlOf_complete address)

theorem IsSimple.not_mem (h : IsSimple cs) {c : Char} (hc : c ∈ ['\t', '\r', '\n', '[', ']']) : c ∉ cs :=
  fun hmem => (h c hmem).2 hc

theorem IsSimple.isReadable_authority (h : IsSimple cs) : IsReadable (authority cs) :=
  isReadable_of_not_mem (fun hc => h.not_mem (by decide) (mem_of_mem_authority hc))
    (fun hc => h.not_mem (by decide) (mem_of_mem_authority hc))
    fun _ hc => not_mem_lookAlikes_of_lt (h _ (mem_of_mem_authority hc)).1

/-- A text less the blanks and controls in front of it. -/
def lessFront (cs : List Char) : List Char := cs.dropWhile fun c => c.toNat ≤ 0x20

theorem mem_of_mem_lessFront {c : Char} (hc : c ∈ lessFront cs) : c ∈ cs :=
  (List.dropWhile_sublist _).subset hc

theorem lessFront_eq_self (hfront : ∀ c, cs.head? = some c → 0x20 < c.toNat) : lessFront cs = cs := by
  cases cs with
  | nil => rfl
  | cons c cs =>
    have hc : ¬ c.toNat ≤ 0x20 := Nat.not_le.mpr (hfront c rfl)
    rw [lessFront, List.dropWhile_cons_of_neg (by simpa using hc)]

/-- Of a simple text, only the blanks and controls in front do not count. -/
theorem IsSimple.clean_eq (h : IsSimple cs) : clean cs = lessFront cs := by
  refine List.filter_eq_self.mpr fun c hc => ?_
  have hnone := (h c (mem_of_mem_lessFront hc)).2
  simp only [List.mem_cons, not_or] at hnone
  simp [isBreak, hnone]

/-- A simple address is accepted exactly if its URL, less its front, is made of parts, the host a name. -/
theorem exists_url_eq_ok_iff_named (h : IsSimple address.toList) :
    (∃ r, url address = .ok r) ↔
      ∃ p : Parts, p.WellFormed ∧ p.IsNamed ∧ p.text = lessFront (complete address).toList := by
  have hclean := h.complete.clean_eq
  have hopen : '[' ∉ lessFront (complete address).toList := fun hc =>
    h.complete.not_mem (by decide) (mem_of_mem_lessFront hc)
  constructor
  · rintro ⟨r, hurl⟩
    obtain rfl := url_eq_complete hurl
    obtain ⟨p, hp, hhost, htext⟩ := exists_parts_of_url hurl
    rw [hclean] at htext
    rcases hhost with hname | ⟨inside, hinside⟩
    · exact ⟨p, hp, hname, htext⟩
    · refine absurd ?_ hopen
      rw [← htext, Parts.text, Parts.authority, hinside.host]
      simp
  · rintro ⟨p, hp, hname, htext⟩
    have hhost : '[' ∉ p.host := by
      intro hc
      refine hopen ?_
      rw [← htext, Parts.text, Parts.authority]
      simp [hc]
    have hauthority :=
      Parts.authority_eq hp hname.endsAuthority_eq_false (hclean.trans htext.symm)
    have hparts := Parts.hostAndPort_of_isNamed hp hname hhost
    rw [← hauthority] at hparts
    exact ⟨_, url_eq_ok_iff.mpr ⟨rfl, p.host, p.port,
      endpoint?_eq_ok_iff.mpr ⟨h.complete.isReadable_authority, hparts⟩, hname.nonempty, hp.port⟩⟩

/-! ## Hosts in brackets -/

/-- A host in brackets, with a port, is completed with a scheme. -/
theorem complete_bracketed {host port : String} (hslash : '/' ∉ host.toList)
    (hport : IsPortText port.toList) :
    complete ("[" ++ host ++ "]:" ++ port) = "http://[" ++ host ++ "]:" ++ port := by
  have hnone : '/' ∉ ("[" ++ host ++ "]:" ++ port).toList := by
    have hdigit : '/' ∉ port.toList := hport.not_mem (by decide)
    simp [hslash, hdigit]
  have hmark : ¬ schemeMark <:+: ("[" ++ host ++ "]:" ++ port).toList := fun h =>
    hnone (h.subset (by decide))
  rw [← isUrlOf_iff.mp (.bare hmark)]
  simp [← String.append_assoc]

/-- The characters of a host that may be put in brackets. -/
def IsInside (host : List Char) : Prop :=
  ∀ c ∈ host, c.toNat < 128 ∧ c ∉ ['/', '?', '#', '@', '[', ']', '\t', '\r', '\n']

theorem IsInside.not_mem_marks {host : List Char} (h : IsInside host) : ∀ c ∈ host, c ∉ marks := by
  intro c hc
  obtain ⟨hsmall, hnone⟩ := h c hc
  have hlook := not_mem_lookAlikes_of_lt hsmall
  simp only [List.mem_cons, not_or] at hnone
  simp [marks, hnone, hlook]

theorem not_mem_marks_of_isPortText {port : List Char} (hport : IsPortText port) :
    ∀ c ∈ ':' :: port, c ∉ marks := by
  intro c hc
  rcases List.mem_cons.mp hc with rfl | hc
  · decide
  · exact not_mem_of_all (by decide) (hport.digits c hc)

/-- A host in brackets, with a port, is accepted exactly if it is an address. -/
theorem url_bracketed_eq_ok_iff {host port : String} (hhost : IsInside host.toList)
    (hport : IsPortText port.toList) :
    url ("[" ++ host ++ "]:" ++ port) = .ok ("http://[" ++ host ++ "]:" ++ port) ↔
      IsAddress host.toList := by
  have hslash : '/' ∉ host.toList := fun hc => (hhost _ hc).2 (by decide)
  have hclose : ']' ∉ host.toList := fun hc => (hhost _ hc).2 (by decide)
  have hmarks := not_mem_marks_bracketed hhost.not_mem_marks (not_mem_marks_of_isPortText hport)
  have hat : '@' ∉ '[' :: (host.toList ++ ']' :: ':' :: port.toList) := fun hc =>
    hmarks _ hc (by decide)
  have hauthority : authority ("http://[" ++ host ++ "]:" ++ port).toList =
      '[' :: (host.toList ++ ']' :: ':' :: port.toList) := by
    have htext : ("http://[" ++ host ++ "]:" ++ port).toList = ['h', 't', 't', 'p'] ++
        ':' :: '/' :: '/' :: '[' :: (host.toList ++ ']' :: ':' :: port.toList) := by simp
    rw [htext]
    exact authority_append rfl hmarks
  have hreadable : IsReadable ('[' :: (host.toList ++ ']' :: ':' :: port.toList)) ↔
      IsAddress host.toList :=
    isReadable_bracketed_iff hclose (fun _ => rfl) hat (not_mem_lookAlikes_of_not_mem_marks hmarks)
  rw [url_eq_ok_iff, complete_bracketed hslash hport]
  constructor
  · rintro ⟨-, _, _, hends, -⟩
    have hread := (endpoint?_eq_ok_iff.mp hends).1
    rw [hauthority] at hread
    exact hreadable.mp hread
  · intro haddress
    refine ⟨rfl, host.toList, port.toList, endpoint?_eq_ok_iff.mpr ?_, haddress.ne_nil, hport⟩
    rw [hauthority, hostAndPort_bracketed hclose hat, after_cons]
    exact ⟨hreadable.mpr haddress, rfl⟩

/-! ## The grammar -/

/-- **Addresses are accepted by a grammar.** A simple address is accepted exactly if its URL, less the blanks
and controls in front of it, is made of parts, the host a name, and is called invalid otherwise; a URL that
has none in front is returned as it is. A host in brackets, with a port, is accepted exactly if it is an
address; and what is accepted is accepted again, unchanged. -/
theorem url_grammar :
    (∀ address u : String, IsUrlOf address u → IsSimple address.toList →
      ((∃ r, url address = .ok r) ↔
        ∃ p : Parts, p.WellFormed ∧ p.IsNamed ∧ p.text = lessFront u.toList) ∧
      ((¬ ∃ p : Parts, p.WellFormed ∧ p.IsNamed ∧ p.text = lessFront u.toList) →
        url address = .error (.configuration ⟨"proxy_address",
          "must be in the form host:port, got '" ++ address ++ "'"⟩)) ∧
      ((∀ c, u.toList.head? = some c → 0x20 < c.toNat) →
        lessFront u.toList = u.toList ∧
          (url address = .ok u ↔ ∃ p : Parts, p.WellFormed ∧ p.IsNamed ∧ p.text = u.toList))) ∧
    (∀ host port : String, IsInside host.toList → IsPortText port.toList →
      (url ("[" ++ host ++ "]:" ++ port) = .ok ("http://[" ++ host ++ "]:" ++ port) ↔
        IsAddress host.toList)) ∧
    ∀ address u : String, url address = .ok u → url u = .ok u := by
  refine ⟨fun address u hu hsimple => ?_, fun host port => url_bracketed_eq_ok_iff,
    fun address u => url_url⟩
  obtain rfl := isUrlOf_iff.mp hu
  have hiff := exists_url_eq_ok_iff_named hsimple
  refine ⟨hiff, fun hnone => ?_, fun hfront => ⟨lessFront_eq_self hfront, ?_⟩⟩
  · rcases url_eq_of_isReadable hsimple.complete.isReadable_authority with hok | hfault
    · exact absurd (hiff.mp ⟨_, hok⟩) hnone
    · exact hfault
  · rw [lessFront_eq_self hfront] at hiff
    rw [← hiff]
    refine ⟨fun hok => ⟨_, hok⟩, ?_⟩
    rintro ⟨r, hr⟩
    rwa [url_eq_complete hr] at hr

/-- The parts of a URL without scheme, the mark of one at its end. -/
def slashParts : Parts := ⟨none, none, ['h'], ['1'], ['/', ':', '/', '/']⟩

theorem wellFormed_slashParts : slashParts.WellFormed where
  scheme s hs := by cases hs
  user u hu := by cases hu
  port := isPortText_iff.mpr rfl
  tail c hc := by
    obtain rfl := Option.some.inj hc
    decide

/-- The parts of a URL with a scheme, which may have blanks in front. -/
def plainParts : Parts := ⟨some ['h', 't', 't', 'p'], none, ['h'], ['8', '0'], []⟩

theorem wellFormed_plainParts : plainParts.WellFormed where
  scheme s hs := by
    obtain rfl := Option.some.inj hs
    exact isSchemeText_iff.mpr rfl
  user u hu := by cases hu
  port := isPortText_iff.mpr rfl
  tail c hc := by cases hc

theorem url_grammar_slashes :
    IsUrlOf "//h:1/://" "//h:1/://" ∧ IsSimple "//h:1/://".toList ∧
      slashParts.WellFormed ∧ slashParts.IsNamed ∧ slashParts.text = "//h:1/://".toList ∧
      url "//h:1/://" = .ok "//h:1/://" ∧
      plainParts.text = lessFront " http://h:80".toList ∧ (∃ r, url " http://h:80" = .ok r) ∧
      url " http://:80" = .error (.configuration ⟨"proxy_address",
        "must be in the form host:port, got ' http://:80'"⟩) ∧
      IsInside "::1".toList ∧ IsPortText "080".toList ∧ IsAddress "::1".toList ∧
      url "[::1]:080" = .ok "http://[::1]:080" ∧
      url "http://[::1]:080" = .ok "http://[::1]:080" := by
  have hcomplete : IsUrlOf "//h:1/://" "//h:1/://" := isUrlOf_iff.mpr rfl
  have hsimple : IsSimple "//h:1/://".toList := by simp [IsSimple]
  have hfront : ∀ c, "//h:1/://".toList.head? = some c → 0x20 < c.toNat := by
    intro c hc
    obtain rfl := Option.some.inj hc
    decide
  have hname : slashParts.IsNamed := ⟨by decide, by simp [slashParts]⟩
  have hslash : url "//h:1/://" = .ok "//h:1/://" :=
    (((url_grammar.1 "//h:1/://" "//h:1/://" hcomplete hsimple).2.2 hfront).2).mpr
      ⟨slashParts, wellFormed_slashParts, hname, rfl⟩
  have hblank : ∃ r, url " http://h:80" = .ok r :=
    (url_grammar.1 " http://h:80" _ (isUrlOf_iff.mpr rfl) (by simp [IsSimple])).1.mpr
      ⟨plainParts, wellFormed_plainParts, ⟨by decide, by simp [plainParts]⟩, rfl⟩
  have hinside : IsInside "::1".toList := by simp [IsInside]
  have hport : IsPortText "080".toList := isPortText_iff.mpr rfl
  have haddress : IsAddress "::1".toList := isAddress_of_isVersion6 (by decide)
  have hbracketed : url "[::1]:080" = .ok "http://[::1]:080" :=
    (url_grammar.2.1 "::1" "080" hinside hport).mpr haddress
  exact ⟨hcomplete, hsimple, wellFormed_slashParts, hname, rfl, hslash, rfl, hblank, rfl, hinside,
    hport, haddress, hbracketed, url_grammar.2.2 _ _ hbracketed⟩

/-- Not every text in brackets is accepted, and blanks in front are accepted with the rest. -/
theorem not_forall_grammar :
    (¬ ∀ host port : String, host ≠ "" → IsInside host.toList → IsPortText port.toList →
      url ("[" ++ host ++ "]:" ++ port) = .ok ("http://[" ++ host ++ "]:" ++ port)) ∧
    ¬ ∀ address : String, IsSimple address.toList → ∀ u, url address = .ok u →
      ∃ p : Parts, p.WellFormed ∧ p.IsNamed ∧ p.text = u.toList := by
  constructor
  · intro hall
    have hport : IsPortText "80".toList := isPortText_iff.mpr rfl
    have hinside : IsInside "x".toList := by simp [IsInside]
    have haddress := (url_bracketed_eq_ok_iff hinside hport).mp (hall "x" "80" (by decide) hinside hport)
    exact absurd (checkHost_eq_ok_iff.mpr haddress) (by decide)
  · intro hall
    have hsimple : IsSimple " http://h:80".toList := by simp [IsSimple]
    obtain ⟨p, hp, -, htext⟩ := hall " http://h:80" hsimple " http://h:80" rfl
    rcases hp.head?_text with ⟨-, hfirst⟩ | ⟨-, c, hfirst, hletter⟩
    · rw [htext] at hfirst
      cases hfirst
    · rw [htext] at hfirst
      obtain rfl := Option.some.inj hfirst
      cases hletter

end ObjectStorage.Proxy

import ObjectStorage.Proofs.Client.Config
import ObjectStorage.Proofs.Proxy.Completion

/-!
# The URL that a client is given

* `IsProxyUrl`: a text that is made of parts with a scheme, character for character.
* `isProxyUrl_iff`: an accepted URL is such a text exactly if nothing in it goes uncounted and it begins with
  a letter.
* `Settings.proxies_of_clientConfig`: this URL is the proxy of a client for every scheme of a request.
* `url_returned`: what is checked of an accepted URL, and what a client is given.
* `not_forall_isProxyUrl`: the two can be different texts.
-/

namespace ObjectStorage

open ObjectStorage.Url

/-! ## Texts made of parts -/

namespace Proxy

variable {address u : String} {cs : List Char}

/-- A text without breaks that is made of parts with a scheme, character for character. -/
structure IsProxyUrl (cs : List Char) : Prop where
  unbroken : ∀ c ∈ cs, c ∉ ['\t', '\r', '\n']
  parts : ∃ p : Parts, p.WellFormed ∧ p.scheme ≠ none ∧
    (p.IsNamed ∨ ∃ inside, p.IsBracketed inside) ∧ p.text = cs

theorem IsProxyUrl.head? (h : IsProxyUrl cs) : ∃ c, cs.head? = some c ∧ c.isAlpha = true := by
  obtain ⟨p, hp, hscheme, -, htext⟩ := h.parts
  rcases hp.head?_text with ⟨hnone, -⟩ | ⟨-, hletter⟩
  · exact absurd hnone hscheme
  · rwa [htext] at hletter

/-- Of a text without breaks that begins with a letter, every character counts. -/
theorem clean_of_letter (hbreak : ∀ c ∈ cs, c ∉ ['\t', '\r', '\n'])
    (hfirst : ∃ c, cs.head? = some c ∧ c.isAlpha = true) : clean cs = cs := by
  obtain ⟨c, hc, hletter⟩ := hfirst
  refine clean_eq_self (isUnbroken_iff.mpr hbreak) fun d hd => ?_
  obtain rfl := Option.some.inj (hc.symm.trans hd)
  exact Nat.not_le.mp (not_le_blank_of_isLetter hletter)

/-- An accepted URL is made of parts with a scheme exactly if it has no breaks and begins with a letter. -/
theorem isProxyUrl_iff (h : url address = .ok u) :
    IsProxyUrl u.toList ↔ (∀ c ∈ u.toList, c ∉ ['\t', '\r', '\n']) ∧
      ∃ c, u.toList.head? = some c ∧ c.isAlpha = true := by
  constructor
  · intro hwhole
    exact ⟨hwhole.unbroken, hwhole.head?⟩
  · rintro ⟨hbreak, hfirst⟩
    obtain ⟨p, hp, hhost, htext⟩ := exists_parts_of_url h
    rw [clean_of_letter hbreak hfirst] at htext
    refine ⟨hbreak, p, hp, ?_, hhost, htext⟩
    rcases hp.head?_text with ⟨-, hslash⟩ | ⟨hscheme, -⟩
    · obtain ⟨c, hc, hletter⟩ := hfirst
      rw [htext, hc] at hslash
      obtain rfl := Option.some.inj hslash
      cases hletter
    · exact hscheme

end Proxy

/-! ## The proxies of a client -/

namespace Settings

variable {s : Settings} {config : ClientConfig} {address u : String}

/-- The proxy of a client for every scheme is the URL that was accepted. -/
theorem proxies_of_clientConfig (hproxy : present s.proxyAddress = some address)
    (hurl : Proxy.url address = .ok u) (hconfig : s.clientConfig = .ok config) :
    config.proxies = some [("http", u), ("https", u)] := by
  obtain ⟨connect, read, proxy, -, -, hproxyUrl, rfl⟩ := clientConfig_eq_ok_iff.mp hconfig
  rw [proxyUrl?_of_present hproxy, hurl] at hproxyUrl
  obtain rfl := Except.ok.inj hproxyUrl
  rfl

end Settings

/-! ## What is checked and what is returned -/

namespace Proxy

variable {address u : String}

/-- **What is checked of an address, and what a client is given.** The URL of an accepted address is made
of parts once breaks and blanks in front of it are left out; as it is returned, it is such a text exactly
if it has no breaks and begins with a letter. The proxies of a client are that URL. -/
theorem url_returned (h : url address = .ok u) :
    u = complete address ∧
    (∃ p : Parts, p.WellFormed ∧ (p.IsNamed ∨ ∃ inside, p.IsBracketed inside) ∧
      p.text = clean u.toList) ∧
    (IsProxyUrl u.toList ↔ (∀ c ∈ u.toList, c ∉ ['\t', '\r', '\n']) ∧
      ∃ c, u.toList.head? = some c ∧ c.isAlpha = true) ∧
    ∀ {s : Settings} {config : ClientConfig}, present s.proxyAddress = some address →
      s.clientConfig = .ok config → config.proxies = some [("http", u), ("https", u)] := by
  refine ⟨url_eq_complete h, exists_parts_of_url h, isProxyUrl_iff h, ?_⟩
  intro s config hproxy hconfig
  exact Settings.proxies_of_clientConfig hproxy h hconfig

/-- A host and a port with the end of their line. -/
def lineAddress : String := "h:80\n"

theorem url_lineAddress : url lineAddress = .ok "http://h:80\n" := rfl

/-- Settings with this address as their proxy. -/
def lineSettings : Settings := { Settings.default with proxyAddress := some lineAddress }

theorem url_returned_lineAddress :
    url lineAddress = .ok "http://h:80\n" ∧ present lineSettings.proxyAddress = some lineAddress ∧
      ¬ IsProxyUrl "http://h:80\n".toList ∧
      ∃ config, lineSettings.clientConfig = .ok config ∧
        config.proxies = some [("http", "http://h:80\n"), ("https", "http://h:80\n")] := by
  obtain ⟨-, -, hwhole, hproxies⟩ := url_returned url_lineAddress
  obtain ⟨config, hconfig⟩ : ∃ config, lineSettings.clientConfig = .ok config := ⟨_, rfl⟩
  refine ⟨url_lineAddress, rfl, fun h => ?_, config, hconfig, hproxies rfl hconfig⟩
  exact (hwhole.mp h).1 '\n' (by decide) (by decide)

/-- There are accepted URLs that are not made of parts as they are returned. -/
theorem not_forall_isProxyUrl : ¬ ∀ address u, url address = .ok u → IsProxyUrl u.toList := by
  intro hall
  have hwhole := hall lineAddress "http://h:80\n" url_lineAddress
  exact hwhole.unbroken '\n' (by decide) (by decide)

end Proxy

end ObjectStorage

import ObjectStorage.Proofs.Command.Numbers
import ObjectStorage.Proofs.Proxy.Completion

/-!
# What keeps an address from being accepted

* `Settings.clientConfig_eq_error_iff_url`: where no time is overlong, the configuration of settings with a
  proxy fails as its address does.
* `Report.uncaught_validate_iff`: so whether a handler takes the fault of `validate` depends on that address.
* `Proxy.url_faults`: an address whose URL can be read is accepted or called invalid, any other ends in a
  fault of another sort that no handler takes.
* `Proxy.not_forall_url`: there are such addresses.
-/

namespace ObjectStorage

open Command ObjectStorage.Url

/-! ## Settings with a proxy -/

namespace Settings

variable {s : Settings} {address : String} {f : Fault}

theorem not_overlong_of_seconds {connect read : Rat}
    (hconnect : ClientConfig.seconds s.connectTimeout = .ok connect)
    (hread : ClientConfig.seconds s.readTimeout = .ok read) : ¬ s.Overlong := by
  rintro (hlong | hlong)
  · rw [ClientConfig.seconds_eq_error_iff.mpr ⟨hlong, rfl⟩] at hconnect
    cases hconnect
  · rw [ClientConfig.seconds_eq_error_iff.mpr ⟨hlong, rfl⟩] at hread
    cases hread

theorem proxyUrl?_eq_error_iff (hproxy : present s.proxyAddress = some address) :
    s.proxyUrl? = .error f ↔ Proxy.url address = .error f := by
  rw [proxyUrl?_of_present hproxy]
  cases Proxy.url address with
  | error e => simp [Except.map]
  | ok u => simp [Except.map]

/-- Where no time is overlong, a configuration fails as the address of the proxy does. -/
theorem clientConfig_eq_error_iff_url (hproxy : present s.proxyAddress = some address)
    (hshort : ¬ s.Overlong) : s.clientConfig = .error f ↔ Proxy.url address = .error f := by
  obtain ⟨hconnect, hread⟩ := not_or.mp hshort
  rw [clientConfig_eq_error_iff, proxyUrl?_eq_error_iff hproxy]
  constructor
  · rintro (⟨hlong, -⟩ | ⟨-, -, hurl⟩)
    · exact absurd hlong hshort
    · exact hurl
  · intro hurl
    exact .inr ⟨Int.not_le.mp hconnect, Int.not_le.mp hread, hurl⟩

end Settings

namespace Command.Report

variable {env : Environment} {s : Settings} {address : String} {json : Bool}

/-- A handler takes the fault of `validate`, if there is one, exactly if the URL of the proxy can be read. -/
theorem uncaught_validate_iff (hs : env.settings = .ok s) (hname : present s.appName ≠ none)
    (hproxy : present s.proxyAddress = some address) (hshort : ¬ s.Overlong) :
    (validate env json none).uncaught = none ↔
      IsReadable (authority (Proxy.complete address).toList) := by
  rw [validate_of_settings hs, Settings.configured_of_named hname]
  cases hconfig : s.clientConfig with
  | error f =>
    have hurl := (Settings.clientConfig_eq_error_iff_url hproxy hshort).mp hconfig
    by_cases hreadable : IsReadable (authority (Proxy.complete address).toList)
    · rcases Proxy.url_eq_of_isReadable hreadable with h | h
      · rw [h] at hurl
        cases hurl
      · obtain rfl := Except.error.inj (hurl.symm.trans h)
        exact iff_of_true uncaught_invalid hreadable
    · obtain ⟨e, he⟩ := Proxy.exists_url_eq_of_not_isReadable hreadable
      obtain rfl := Except.error.inj (hurl.symm.trans he)
      exact iff_of_false (fun h => by cases h) hreadable
  | ok config =>
    refine iff_of_true uncaught_valid ?_
    by_contra hreadable
    obtain ⟨e, he⟩ := Proxy.exists_url_eq_of_not_isReadable hreadable
    rw [(Settings.clientConfig_eq_error_iff_url hproxy hshort).mpr he] at hconfig
    cases hconfig

end Command.Report

/-! ## Faults of an address -/

namespace Proxy

/-- **Which fault an address ends in.** An address whose URL has an authority that can be read is accepted,
or called invalid in a text that quotes it as given. Any other ends in the fault of that authority, which
`validate` does not handle. -/
theorem url_faults (address : String) :
    (IsReadable (authority (complete address).toList) →
      (∃ u, url address = .ok u) ∨ url address = .error (.configuration ⟨"proxy_address",
        "must be in the form host:port, got '" ++ address ++ "'"⟩)) ∧
    (¬ IsReadable (authority (complete address).toList) → ∃ e, url address = .error (.address e)) ∧
    ∀ {env : Environment} {s : Settings} (json : Bool), env.settings = .ok s →
      present s.appName ≠ none → present s.proxyAddress = some address → ¬ s.Overlong →
      ((Report.validate env json none).uncaught = none ↔
        IsReadable (authority (complete address).toList)) := by
  refine ⟨fun hreadable => ?_, exists_url_eq_of_not_isReadable, ?_⟩
  · exact (url_eq_of_isReadable hreadable).imp_left fun h => ⟨_, h⟩
  · intro env s json hs hname hproxy hshort
    exact Report.uncaught_validate_iff hs hname hproxy hshort

/-- A version 6 address with a port, its bracket left open. -/
def openAddress : String := "[::1:3128"

theorem not_isReadable_openAddress : ¬ IsReadable (authority (complete openAddress).toList) := by
  intro h
  have hclose : ']' ∈ authority (complete openAddress).toList := h.paired.mp (by decide)
  exact absurd hclose (by decide)

/-- Entries that name the application and give this address. -/
def openEntries : List (String × String) :=
  [("CLOUDSTORE_APP_NAME", "web"), ("CLOUDSTORE_PROXY_ADDRESS", openAddress)]

/-- The settings of these entries. -/
def openSettings : Settings :=
  { Settings.default with appName := some "web", proxyAddress := some openAddress }

theorem url_faults_openAddress :
    ¬ IsReadable (authority (complete openAddress).toList) ∧
      (∃ e, url openAddress = .error (.address e)) ∧
      IsReadable (authority (complete "h:80x").toList) ∧
      ((∃ u, url "h:80x" = .ok u) ∨ url "h:80x" = .error (.configuration ⟨"proxy_address",
        "must be in the form host:port, got 'h:80x'"⟩)) ∧
      (Environment.ofTexts openEntries).settings = .ok openSettings ∧
      (Report.validate (.ofTexts openEntries) false none).uncaught ≠ none := by
  have hreadable : IsReadable (authority (complete "h:80x").toList) :=
    isReadable_iff.mpr ⟨rfl, rfl⟩
  have hs : (Environment.ofTexts openEntries).settings = .ok openSettings := rfl
  have hshort : ¬ openSettings.Overlong := Settings.not_overlong_of_seconds rfl rfl
  have hvalidate := (url_faults openAddress).2.2 false hs (by decide) rfl hshort
  exact ⟨not_isReadable_openAddress, (url_faults openAddress).2.1 not_isReadable_openAddress,
    hreadable, (url_faults "h:80x").1 hreadable, hs,
    fun h => not_isReadable_openAddress (hvalidate.mp h)⟩

/-- There are addresses that are neither accepted nor called invalid. -/
theorem not_forall_url :
    ¬ ∀ address, (∃ u, url address = .ok u) ∨
      url address = .error (.configuration (fault address)) := by
  intro hall
  obtain ⟨e, he⟩ := exists_url_eq_of_not_isReadable not_isReadable_openAddress
  rcases hall openAddress with ⟨u, hu⟩ | hfault
  · rw [he] at hu
    cases hu
  · rw [he] at hfault
    cases hfault

end Proxy

end ObjectStorage

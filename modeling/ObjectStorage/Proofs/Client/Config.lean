import ObjectStorage.Client.Config
import ObjectStorage.Proofs.Binary64.Range

/-!
# When settings have a client configuration

* `ClientConfig.tooLong`: the least number of milliseconds whose seconds have no binary64 number.
* `ClientConfig.seconds_eq_error_iff`: times fail from there on, and in one way.
* `Settings.clientConfig_eq_ok_iff`: a configuration is made of two times, retries, connections, a proxy
  and a name.
* `Settings.clientConfig_eq_error_iff`: a fault is that of a time, or else that of the proxy.
-/

namespace ObjectStorage

/-! ## Times -/

namespace ClientConfig

/-- The least number of milliseconds whose seconds have no binary64 number. -/
@[irreducible] def tooLong : Nat := Binary64.overflow * 1000

theorem tooLong_pos : 0 < tooLong := by
  unfold tooLong
  exact Nat.mul_pos Binary64.overflow_pos (by decide)

theorem tooLong_le_iff {millis : Int} (h : 0 < millis) :
    (tooLong : Int) ≤ millis ↔ Binary64.nearest? millis.toNat 1000 = none := by
  have hnat : 0 < millis.toNat := by omega
  rw [Binary64.nearest?_eq_none_iff hnat (by decide)]
  unfold tooLong
  exact (Int.le_toNat h.le).symm

/-- A time fails from a least number of milliseconds on. -/
theorem seconds_eq_error_iff {millis : Int} {f : Fault} :
    seconds millis = .error f ↔ tooLong ≤ millis ∧ f = .quotientTooLarge := by
  unfold seconds
  by_cases hpos : 0 < millis
  · rw [if_pos hpos, tooLong_le_iff hpos]
    cases Binary64.nearest? millis.toNat 1000 with
    | none => simp [eq_comm]
    | some r => simp
  · rw [if_neg hpos]
    have hshort : ¬ (tooLong : Int) ≤ millis := by
      have htooLong : (0 : Int) < tooLong := Int.natCast_pos.mpr tooLong_pos
      exact fun h => hpos (lt_of_lt_of_le htooLong h)
    simp [hshort]

end ClientConfig

/-! ## Configurations -/

namespace Settings

open ClientConfig

variable {s : Settings}

theorem clientConfig_eq_ok_iff {config : ClientConfig} :
    s.clientConfig = .ok config ↔
      ∃ connect read proxy, seconds s.connectTimeout = .ok connect ∧
        seconds s.readTimeout = .ok read ∧ s.proxyUrl? = .ok proxy ∧
        config = ⟨connect, read, max 0 s.maxHttpRequestRetries, max leastConnections s.batchThreads,
          proxy, present s.appName⟩ := by
  unfold clientConfig
  cases seconds s.connectTimeout with
  | error e => simp [bind, Except.bind]
  | ok connect =>
    cases seconds s.readTimeout with
    | error e => simp [bind, Except.bind]
    | ok read =>
      cases s.proxyUrl? with
      | error e => simp [bind, Except.bind]
      | ok proxy => simp [bind, Except.bind, pure, Except.pure, eq_comm]

/-- A fault is that of a time, or else that of the proxy. -/
theorem clientConfig_eq_error_iff {f : Fault} :
    s.clientConfig = .error f ↔
      ((tooLong ≤ s.connectTimeout ∨ tooLong ≤ s.readTimeout) ∧ f = .quotientTooLarge) ∨
        (s.connectTimeout < tooLong ∧ s.readTimeout < tooLong ∧ s.proxyUrl? = .error f) := by
  unfold clientConfig
  cases hconnect : seconds s.connectTimeout with
  | error e =>
    obtain ⟨hlong, rfl⟩ := seconds_eq_error_iff.mp hconnect
    simp [bind, Except.bind, hlong, eq_comm]
  | ok connect =>
    have hshort : ¬ tooLong ≤ s.connectTimeout := fun h => by
      rw [seconds_eq_error_iff.mpr ⟨h, rfl⟩] at hconnect
      cases hconnect
    cases hread : seconds s.readTimeout with
    | error e =>
      obtain ⟨hlong, rfl⟩ := seconds_eq_error_iff.mp hread
      simp [bind, Except.bind, hlong, eq_comm]
    | ok read =>
      have hshort' : ¬ tooLong ≤ s.readTimeout := fun h => by
        rw [seconds_eq_error_iff.mpr ⟨h, rfl⟩] at hread
        cases hread
      cases hproxy : s.proxyUrl? with
      | error e => simp [bind, Except.bind, hshort, hshort', Int.not_le.mp]
      | ok proxy => simp [bind, Except.bind, pure, Except.pure, hshort, hshort']

theorem maxAttempts_of_clientConfig {config : ClientConfig} (h : s.clientConfig = .ok config) :
    config.maxAttempts = max 0 s.maxHttpRequestRetries := by
  obtain ⟨connect, read, proxy, -, -, -, rfl⟩ := clientConfig_eq_ok_iff.mp h
  rfl

/-- Without the address of a proxy there is none. -/
theorem proxyUrl?_of_present_eq_none (h : present s.proxyAddress = none) : s.proxyUrl? = .ok none := by
  rw [proxyUrl?, h]

theorem proxyUrl?_of_present {address : String} (h : present s.proxyAddress = some address) :
    s.proxyUrl? = (Proxy.url address).map some := by
  rw [proxyUrl?, h]

end Settings

end ObjectStorage

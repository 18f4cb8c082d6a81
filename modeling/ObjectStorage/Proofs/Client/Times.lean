import ObjectStorage.Proofs.Binary64.Nearest
import ObjectStorage.Proofs.Client.Config

/-!
# The times of a client configuration

* `Phase`: the two phases of a request that have a time limit, with `Settings.withLimit` and
  `ClientConfig.timeout`.
* `ClientConfig.exists_nearest_of_seconds`: a time in seconds is a number nearest to the quotient.
* `ClientConfig.seconds_pos`, `seconds_mono`, `seconds_exact`: so it is positive, grows with the
  milliseconds, and is the quotient itself where that is a number.
* `clientConfig_withLimit`: where nothing else fails, a configuration depends on a limit in its time alone.
* `timeout_of_limit`: what a configuration makes of a limit, for every number of milliseconds.
-/

namespace ObjectStorage

/-! ## Times in seconds -/

namespace ClientConfig

open Binary64

variable {t t' : Int} {r r' : Rat}

/-- `overflow` in rational numbers. -/
theorem cast_overflow : (overflow : ℚ) = 2 ^ 1024 - 2 ^ 970 := by
  have hle : 2 ^ 970 ≤ 2 ^ 1024 := by gcongr <;> decide
  unfold overflow
  rw [Nat.cast_sub hle, Nat.cast_pow, Nat.cast_pow, Nat.cast_ofNat]

theorem div_lt_overflow_iff : (t : ℚ) / 1000 < 2 ^ 1024 - 2 ^ 970 ↔ t < tooLong := by
  rw [← cast_overflow, div_lt_iff₀ (by norm_num)]
  unfold tooLong
  exact_mod_cast Iff.rfl

theorem seconds_of_nonpos (h : t ≤ 0) : seconds t = .ok 60 := if_neg (by omega)

/-- A time in seconds is a number nearest to the quotient. -/
theorem exists_nearest_of_seconds (hpos : 0 < t) (h : t < tooLong) :
    ∃ a : Normal, seconds t = .ok a.value ∧ a.Nearest (t / 1000) := by
  obtain ⟨n, rfl⟩ : ∃ n : Nat, t = n := ⟨t.toNat, by omega⟩
  have hshort : n < overflow * 1000 := by
    unfold tooLong at h
    exact_mod_cast h
  obtain ⟨a, ha, hnear⟩ := exists_nearest (d := 1000) (by omega) (by decide) hshort
  refine ⟨a, ?_, ?_⟩
  · unfold seconds
    rw [if_pos hpos, Int.toNat_natCast, ha]
  · rwa [Int.cast_natCast, ← Nat.cast_ofNat (n := 1000)]

/-- The same, where a time is known to have an answer. -/
theorem exists_nearest_of_seconds_eq (hpos : 0 < t) (h : seconds t = .ok r) :
    ∃ a : Normal, r = a.value ∧ a.Nearest (t / 1000) := by
  have hshort : t < tooLong := by
    by_contra hlong
    rw [seconds_eq_error_iff.mpr ⟨not_lt.mp hlong, rfl⟩] at h
    cases h
  obtain ⟨a, ha, hnear⟩ := exists_nearest_of_seconds hpos hshort
  exact ⟨a, Except.ok.inj (h.symm.trans ha), hnear⟩

theorem seconds_pos (h : seconds t = .ok r) : 0 < r := by
  rcases le_or_gt t 0 with hneg | hpos
  · rw [seconds_of_nonpos hneg] at h
    rw [← Except.ok.inj h]
    norm_num
  · obtain ⟨a, rfl, -⟩ := exists_nearest_of_seconds_eq hpos h
    exact a.value_pos

/-- More milliseconds are no fewer seconds. -/
theorem seconds_mono (hpos : 0 < t) (hle : t ≤ t') (h : seconds t = .ok r)
    (h' : seconds t' = .ok r') : r ≤ r' := by
  rcases eq_or_lt_of_le hle with rfl | hlt
  · exact (Except.ok.inj (h.symm.trans h')).le
  · obtain ⟨a, rfl, ha⟩ := exists_nearest_of_seconds_eq hpos h
    obtain ⟨b, rfl, hb⟩ := exists_nearest_of_seconds_eq (hpos.trans hlt) h'
    refine ha.value_le_value hb ?_
    gcongr

/-- A quotient that is a number stays as it is. -/
theorem seconds_exact {a : Normal} (ha : a.value = t / 1000) (h : seconds t = .ok r) :
    r = t / 1000 := by
  have hpos : 0 < t := by
    have hquotient : (0 : ℚ) < t / 1000 := ha ▸ a.value_pos
    have hmillis := mul_pos hquotient (show (0 : ℚ) < 1000 by norm_num)
    rw [div_mul_cancel₀ _ (by norm_num)] at hmillis
    exact_mod_cast hmillis
  obtain ⟨b, rfl, hb⟩ := exists_nearest_of_seconds_eq hpos h
  exact hb.value_eq ha

end ClientConfig

/-! ## Limits -/

/-- The phases of a request that have a time limit. -/
inductive Phase
  | connecting
  | reading
  deriving DecidableEq, Repr

/-- The settings with another limit for a phase, in milliseconds. -/
def Settings.withLimit (s : Settings) : Phase → Int → Settings
  | .connecting, t => s.set .connectTimeout t
  | .reading, t => s.set .readTimeout t

namespace ClientConfig

/-- The limit of a phase, in seconds. -/
def timeout (config : ClientConfig) : Phase → Rat
  | .connecting => config.connectTimeout
  | .reading => config.readTimeout

/-- The configuration with another limit for a phase. -/
def withTimeout (config : ClientConfig) : Phase → Rat → ClientConfig
  | .connecting, r => { config with connectTimeout := r }
  | .reading, r => { config with readTimeout := r }

@[simp] theorem timeout_withTimeout (config : ClientConfig) (p : Phase) (r : Rat) :
    (config.withTimeout p r).timeout p = r := by
  cases p <;> rfl

end ClientConfig

namespace Settings

open ClientConfig

variable {s : Settings} {p : Phase} {t₀ t : Int} {config₀ config : ClientConfig}

/-- Where nothing else fails, a configuration depends on a limit in its time alone. -/
theorem clientConfig_withLimit (h : (s.withLimit p t₀).clientConfig = .ok config₀) (t : Int) :
    (s.withLimit p t).clientConfig = (seconds t).map (config₀.withTimeout p) := by
  obtain ⟨connect, read, proxy, hconnect, hread, hproxy, rfl⟩ := clientConfig_eq_ok_iff.mp h
  cases p with
  | connecting =>
    have hread' : seconds (s.withLimit .connecting t).readTimeout = .ok read := hread
    have hproxy' : (s.withLimit .connecting t).proxyUrl? = .ok proxy := hproxy
    unfold clientConfig
    rw [hread', hproxy']
    show (seconds t >>= _) = _
    cases seconds t <;> rfl
  | reading =>
    have hconnect' : seconds (s.withLimit .reading t).connectTimeout = .ok connect := hconnect
    have hproxy' : (s.withLimit .reading t).proxyUrl? = .ok proxy := hproxy
    unfold clientConfig
    rw [hconnect', hproxy']
    show (seconds t >>= _) = _
    cases seconds t <;> rfl

theorem seconds_of_withLimit (h : (s.withLimit p t).clientConfig = .ok config) :
    seconds t = .ok (config.timeout p) := by
  obtain ⟨connect, read, proxy, hconnect, hread, -, rfl⟩ := clientConfig_eq_ok_iff.mp h
  cases p with
  | connecting => exact hconnect
  | reading => exact hread

/-- **The time of a limit is correctly rounded.** In settings whose other fields do not fail, a limit that
is not positive stands for 60 seconds. A positive limit is divided by 1000, and its time is the number with
53 binary digits that is nearest to the quotient, of two the one with the even significand; from
`2 ^ 1024 - 2 ^ 970` seconds on there is no configuration.
So times are positive, grow with positive limits, and are exact where the quotient is such a number. -/
theorem timeout_of_limit (h : (s.withLimit p t₀).clientConfig = .ok config₀) (t : Int) :
    (t ≤ 0 → ∃ config, (s.withLimit p t).clientConfig = .ok config ∧ config.timeout p = 60) ∧
    (0 < t → (t : ℚ) / 1000 < 2 ^ 1024 - 2 ^ 970 →
      ∃ (config : ClientConfig) (a : Binary64.Normal),
        (s.withLimit p t).clientConfig = .ok config ∧ config.timeout p = a.value ∧
          a.Nearest (t / 1000)) ∧
    ((2 : ℚ) ^ 1024 - 2 ^ 970 ≤ t / 1000 →
      (s.withLimit p t).clientConfig = .error .quotientTooLarge) ∧
    ∀ config, (s.withLimit p t).clientConfig = .ok config →
      0 < config.timeout p ∧
      (0 < t → ∀ t' config', t ≤ t' → (s.withLimit p t').clientConfig = .ok config' →
        config.timeout p ≤ config'.timeout p) ∧
      ∀ a : Binary64.Normal, a.value = t / 1000 → config.timeout p = t / 1000 := by
  refine ⟨fun hneg => ?_, fun hpos hshort => ?_, fun hlong => ?_, fun config hconfig => ⟨?_, ?_, ?_⟩⟩
  · refine ⟨config₀.withTimeout p 60, ?_, timeout_withTimeout ..⟩
    rw [clientConfig_withLimit h, seconds_of_nonpos hneg]
    rfl
  · obtain ⟨a, ha, hnear⟩ := exists_nearest_of_seconds hpos (div_lt_overflow_iff.mp hshort)
    refine ⟨config₀.withTimeout p a.value, a, ?_, timeout_withTimeout .., hnear⟩
    rw [clientConfig_withLimit h, ha]
    rfl
  · have htooLong : (tooLong : Int) ≤ t :=
      not_lt.mp fun hlt => (div_lt_overflow_iff.mpr hlt).not_ge hlong
    rw [clientConfig_withLimit h, seconds_eq_error_iff.mpr ⟨htooLong, rfl⟩]
    rfl
  · exact seconds_pos (seconds_of_withLimit hconfig)
  · intro hpos t' config' hle hconfig'
    exact seconds_mono hpos hle (seconds_of_withLimit hconfig) (seconds_of_withLimit hconfig')
  · intro a ha
    exact seconds_exact ha (seconds_of_withLimit hconfig)

/-- A limit whose seconds lie in the middle between two numbers. -/
def tiedLimit : Int := 1000 * (2 ^ 53 + 1)

theorem tiedLimit_lt : tiedLimit < tooLong := by
  have hunit := Binary64.halfUnit_pos
  unfold tooLong tiedLimit
  rw [Binary64.overflow_eq]
  push_cast
  omega

theorem timeout_of_tiedLimit :
    ∃ config₀ config : ClientConfig, ∃ a : Binary64.Normal,
      (default.withLimit .reading 20000).clientConfig = .ok config₀ ∧
        (default.withLimit .reading tiedLimit).clientConfig = .ok config ∧
          config.timeout .reading = a.value ∧ a.Nearest (tiedLimit / 1000) ∧
            config.timeout .reading = 2 ^ 53 := by
  obtain ⟨config₀, h⟩ : ∃ config₀, (default.withLimit .reading 20000).clientConfig = .ok config₀ :=
    ⟨_, rfl⟩
  obtain ⟨-, hrounded, -, -⟩ := timeout_of_limit h tiedLimit
  obtain ⟨config, a, hconfig, hvalue, hnear⟩ :=
    hrounded (by decide) (div_lt_overflow_iff.mpr tiedLimit_lt)
  refine ⟨config₀, config, a, h, hconfig, hvalue, hnear, ?_⟩
  have heven : seconds tiedLimit = .ok (2 ^ 53) := by decide
  exact Except.ok.inj ((seconds_of_withLimit hconfig).symm.trans heven)

end Settings

end ObjectStorage

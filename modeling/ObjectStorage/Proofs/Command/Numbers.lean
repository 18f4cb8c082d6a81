import ObjectStorage.Proofs.Client.Config
import ObjectStorage.Proofs.Command.Endings
import ObjectStorage.Proofs.Environment.IntegerText
import ObjectStorage.Proofs.Environment.Texts

/-!
# Numbers and the end of `validate`

* `Settings.Overlong`: a time has too many milliseconds for a number of seconds.
* `Report.Handled`: a command that is content, or that names what is invalid.
* `Settings.configured_of_named`, `configured_of_unnamed`: the configuration of settings depends on a name first.
* `Report.handled_of_not_overlong`, `Report.validate_of_overlong`: without a proxy, only a time can
  end `validate` with a fault.
* `validate_numbers`: on texts without a proxy, `validate` is handled exactly if no time is overlong.
* `not_forall_handled`: so there are environments on which it is not.
-/

namespace ObjectStorage

open Command ObjectStorage.Text.Numeral

/-! ## Settings without a proxy -/

namespace Settings

variable {s : Settings}

/-- A time has too many milliseconds for a number of seconds. -/
def Overlong (s : Settings) : Prop :=
  ClientConfig.tooLong ≤ s.connectTimeout ∨ ClientConfig.tooLong ≤ s.readTimeout

theorem configured_of_unnamed (h : present s.appName = none) :
    s.configured = .error (.configuration appNameFault) := by
  unfold configured check
  rw [h]
  rfl

theorem configured_of_named (h : present s.appName ≠ none) : s.configured = s.clientConfig := by
  obtain ⟨app, happ⟩ := Option.ne_none_iff_exists'.mp h
  unfold configured check
  rw [happ]
  rfl

/-- Without a proxy, a configuration fails exactly if a time is overlong. -/
theorem clientConfig_eq_error_iff_overlong (hproxy : present s.proxyAddress = none) {f : Fault} :
    s.clientConfig = .error f ↔ s.Overlong ∧ f = .quotientTooLarge := by
  rw [clientConfig_eq_error_iff, proxyUrl?_of_present_eq_none hproxy, Overlong]
  simp

end Settings

/-! ## How `validate` ends -/

namespace Command

variable {env : Environment} {s : Settings} {json : Bool}

/-- A command that is content, or that names what is invalid: a variable that cannot be read, or the
missing name of the application. -/
structure Report.Handled (env : Environment) (json : Bool) (r : Report) : Prop where
  caught : r.uncaught = none
  ending : r.exitCode = exitOk ∨
    ∃ e, r = .invalid json e ∧ (env.settings = .error (.configuration e) ∨ e = Settings.appNameFault)

theorem Report.handled_of_not_overlong (hs : env.settings = .ok s)
    (hproxy : present s.proxyAddress = none) (h : present s.appName ≠ none → ¬ s.Overlong)
    (json : Bool) : Handled env json (validate env json none) := by
  rw [validate_of_settings hs]
  by_cases hname : present s.appName = none
  · rw [Settings.configured_of_unnamed hname]
    exact ⟨uncaught_invalid, .inr ⟨_, rfl, .inr rfl⟩⟩
  · rw [Settings.configured_of_named hname]
    cases hconfig : s.clientConfig with
    | error f =>
      exact absurd ((Settings.clientConfig_eq_error_iff_overlong hproxy).mp hconfig).1 (h hname)
    | ok config => exact ⟨uncaught_valid, .inl exitCode_valid⟩

theorem Report.validate_of_overlong (hs : env.settings = .ok s)
    (hproxy : present s.proxyAddress = none) (hname : present s.appName ≠ none) (h : s.Overlong)
    (json : Bool) : validate env json none = .crashed .quotientTooLarge := by
  rw [validate_of_settings hs, Settings.configured_of_named hname,
    (Settings.clientConfig_eq_error_iff_overlong hproxy).mpr ⟨h, rfl⟩]
  rfl

/-- Without the address of a proxy in the environment there is none in the settings. -/
theorem present_proxyAddress (hs : env.settings = .ok s)
    (hgiven : env.given? .proxyAddress = none) : present s.proxyAddress = none := by
  have haddress : s.proxyAddress = none := Environment.part_of_not_given hs hgiven
  rw [haddress]
  rfl

theorem given?_proxyAddress {E : List (String × String)}
    (hproxy : ∀ t, E.lookup Variable.proxyAddress.name = some t → t = "") :
    (Environment.ofTexts E).given? .proxyAddress = none := by
  refine Option.eq_none_iff_forall_ne_some.mpr fun raw hraw => ?_
  obtain ⟨t, ht, hne, -⟩ := Environment.given?_ofTexts_eq_some_iff.mp hraw
  exact hne (hproxy t ht)

/-- **Only a time ends `validate` with a fault.** On texts without the address of a proxy, `validate`
is content or names what is invalid, whatever the numbers are, except where the application is named and
a time has too many milliseconds: then no handler takes the fault. -/
theorem validate_numbers {E : List (String × String)}
    (hproxy : ∀ t, E.lookup Variable.proxyAddress.name = some t → t = "") {words : List String}
    {json : Bool} (hwords : Request.parse words = .run json .validate) (known : Bool) :
    ∃ report, Response.ofWords words (.ofTexts E) known none = .report report ∧
      (report.Handled (.ofTexts E) json ↔
        ∀ s, (Environment.ofTexts E).settings = .ok s → present s.appName ≠ none → ¬ s.Overlong) ∧
      (¬ report.Handled (.ofTexts E) json → report = .crashed .quotientTooLarge) := by
  refine ⟨_, by rw [Response.ofWords, hwords], ?_⟩
  cases hs : (Environment.ofTexts E).settings with
  | error f =>
    obtain ⟨e, -, rfl⟩ := Environment.settings_eq_error_iff.mp hs
    have hreport : Report.validate (.ofTexts E) json none = .invalid json e :=
      Report.validate_of_error hs json none
    have hhandled : Report.Handled (.ofTexts E) json (.validate (.ofTexts E) json none) := by
      rw [hreport]
      exact ⟨Report.uncaught_invalid, .inr ⟨e, rfl, .inl hs⟩⟩
    exact ⟨iff_of_true hhandled (by simp), fun h => absurd hhandled h⟩
  | ok s =>
    have hnone := present_proxyAddress hs (given?_proxyAddress hproxy)
    by_cases hlong : present s.appName ≠ none ∧ s.Overlong
    · have hcrash := Report.validate_of_overlong hs hnone hlong.1 hlong.2 json
      have hnot : ¬ Report.Handled (.ofTexts E) json (.validate (.ofTexts E) json none) := fun h => by
        have := h.caught
        rw [hcrash] at this
        cases this
      exact ⟨iff_of_false hnot fun h => h s rfl hlong.1 hlong.2, fun _ => hcrash⟩
    · have hshort : present s.appName ≠ none → ¬ s.Overlong := fun hname h => hlong ⟨hname, h⟩
      have hhandled := Report.handled_of_not_overlong hs hnone hshort json
      refine ⟨iff_of_true hhandled fun s' hs' => ?_, fun h => absurd hhandled h⟩
      rwa [← Except.ok.inj hs']

/-! ## Environments with one time -/

/-- Entries that name the application and set one time. -/
def timeEntries (n : Int) : List (String × String) :=
  [(Variable.appName.name, "a"), (Variable.connectTimeout.name, String.ofList (integer n))]

theorem sets_timeEntries {n : Int} {v : Variable} {t : String}
    (h : Environment.Sets (timeEntries n) v t) :
    (v = .appName ∧ t = "a") ∨ (v = .connectTimeout ∧ t = String.ofList (integer n)) := by
  obtain ⟨hmem, -⟩ := h
  simp only [timeEntries, List.mem_cons, Prod.mk.injEq, List.not_mem_nil, or_false] at hmem
  exact hmem.imp (fun h => ⟨Variable.name_injective h.1, h.2⟩)
    fun h => ⟨Variable.name_injective h.1, h.2⟩

theorem nodup_timeEntries (n : Int) : ((timeEntries n).map Prod.fst).Nodup := by
  show [Variable.appName.name, Variable.connectTimeout.name].Nodup
  decide

theorem given?_timeEntries_eq_none {n : Int} {v : Variable} (hname : v ≠ .appName)
    (htime : v ≠ .connectTimeout) : (Environment.ofTexts (timeEntries n)).given? v = none := by
  refine Option.eq_none_iff_forall_ne_some.mpr fun raw hraw => ?_
  obtain ⟨t, hsets, -⟩ := (Environment.given?_ofTexts_iff (nodup_timeEntries n)).mp hraw
  rcases sets_timeEntries hsets with ⟨h, -⟩ | ⟨h, -⟩
  · exact hname h
  · exact htime h

theorem ofList_integer_ne_empty (n : Int) : String.ofList (integer n) ≠ "" := fun h => by
  have hdigits := IntegerText.length_digits_le n
  rw [String.ofList_eq_empty_iff.mp h] at hdigits
  exact digits_ne_nil _ (List.length_eq_zero_iff.mp (Nat.le_zero.mp hdigits))

/-- The settings of such entries have the name and the time, and no proxy. -/
theorem settings_timeEntries {n : Int} (hn : (integer n).length ≤ digitLimit) :
    ∃ s, (Environment.ofTexts (timeEntries n)).settings = .ok s ∧ s.appName = some "a" ∧
      s.connectTimeout = n ∧ s.readTimeout = Settings.default.readTimeout ∧
      present s.proxyAddress = none := by
  have hnumber : Variable.Form.readNumber (.text (String.ofList (integer n))) = .ok n := by
    rw [Variable.Form.readNumber,
      IntegerText.read_integer (Nat.le_trans (IntegerText.length_digits_le n) hn)]
  have hread (v : Variable) : ∃ o, (Environment.ofTexts (timeEntries n)).read? v = .ok o := by
    refine Environment.exists_read?_eq_ok_iff.mpr fun raw hraw => ?_
    obtain ⟨t, hsets, rfl⟩ := (Environment.given?_ofTexts_iff (nodup_timeEntries n)).mp hraw
    rcases sets_timeEntries hsets with ⟨rfl, rfl⟩ | ⟨rfl, rfl⟩
    · exact ⟨"a", rfl⟩
    · exact ⟨n, hnumber⟩
  have hs := Environment.settings_eq_ok_iff.mpr ⟨hread, rfl⟩
  have hgiven {v : Variable} {t : String} (hmem : (v.name, t) ∈ timeEntries n) (hne : t ≠ "") :
      (Environment.ofTexts (timeEntries n)).given? v = some (.text t) :=
    Environment.given?_ofTexts_of_sets (nodup_timeEntries n) ⟨hmem, hne⟩
  refine ⟨_, hs, ?_, ?_, ?_, ?_⟩
  · exact Environment.part_of_given hs (hgiven (v := .appName) (by simp [timeEntries]) (by decide)) rfl
  · exact Environment.part_of_given hs
      (hgiven (v := .connectTimeout) (by simp [timeEntries]) (ofList_integer_ne_empty n)) hnumber
  · exact Environment.part_of_not_given hs
      (given?_timeEntries_eq_none (v := .readTimeout) (by decide) (by decide))
  · exact present_proxyAddress hs (given?_timeEntries_eq_none (by decide) (by decide))

/-! ## A negative time -/

theorem lookup_timeEntries (n : Int) :
    (timeEntries n).lookup Variable.proxyAddress.name = none := by
  have happ : (Variable.proxyAddress.name == Variable.appName.name) = false := by decide
  have htime : (Variable.proxyAddress.name == Variable.connectTimeout.name) = false := by decide
  simp [timeEntries, List.lookup_cons, happ, htime]

theorem validate_numbers_negative :
    (∀ t, (timeEntries (-5)).lookup Variable.proxyAddress.name = some t → t = "") ∧
      Request.parse ["validate"] = .run false .validate ∧
      ∃ report, Response.ofWords ["validate"] (.ofTexts (timeEntries (-5))) true none =
          .report report ∧
        report.Handled (.ofTexts (timeEntries (-5))) false := by
  have hproxy : ∀ t, (timeEntries (-5)).lookup Variable.proxyAddress.name = some t → t = "" := by
    simp [lookup_timeEntries]
  have hwords : Request.parse ["validate"] = .run false .validate := by decide
  obtain ⟨report, hreport, hhandled, -⟩ := validate_numbers hproxy hwords true
  refine ⟨hproxy, hwords, report, hreport, hhandled.mpr fun s hs _ => ?_⟩
  obtain ⟨s', hs', -, hconnect, hread, -⟩ := settings_timeEntries (n := -5) (by decide)
  obtain rfl := Except.ok.inj (hs.symm.trans hs')
  have hdefault : ClientConfig.seconds Settings.default.readTimeout = .ok _ := rfl
  rintro (hlong | hlong)
  · have := Int.natCast_nonneg ClientConfig.tooLong
    omega
  · rw [hread] at hlong
    rw [ClientConfig.seconds_eq_error_iff.mpr ⟨hlong, rfl⟩] at hdefault
    cases hdefault

/-! ## A time beyond the range -/

theorem length_integer_lt {n : Nat} (h : n < 10 ^ digitLimit) : (integer n).length ≤ digitLimit :=
  (Nat.length_toDigits_le_iff (by decide) (by decide)).mpr h

/-- A power of ten that is small enough to be read and too large for a time. -/
def hugeTime : Nat := 10 ^ 400

theorem hugeTime_lt : hugeTime < 10 ^ digitLimit := by
  rw [hugeTime]
  gcongr <;> decide

theorem tooLong_le_hugeTime : ClientConfig.tooLong ≤ hugeTime := by
  have hlimit : Binary64.overflow ≤ 2 ^ 1024 := by
    unfold Binary64.overflow
    exact Nat.sub_le _ _
  unfold ClientConfig.tooLong
  calc Binary64.overflow * 1000
      ≤ 2 ^ 1024 * 2 ^ 11 := Nat.mul_le_mul hlimit (by decide)
    _ = 8 ^ 345 := by rw [← pow_add, show 8 = 2 ^ 3 from rfl, ← pow_mul]
    _ ≤ 10 ^ 345 := by gcongr; decide
    _ ≤ hugeTime := by
      rw [hugeTime]
      gcongr <;> decide

/-- There are texts without the address of a proxy on which `validate` is not handled. -/
theorem not_forall_handled :
    ¬ ∀ E : List (String × String),
      (∀ t, E.lookup Variable.proxyAddress.name = some t → t = "") →
        ∀ json, Report.Handled (.ofTexts E) json (.validate (.ofTexts E) json none) := by
  intro hall
  have hhandled := hall (timeEntries hugeTime) (by simp [lookup_timeEntries]) false
  obtain ⟨s, hs, hname, hconnect, -, hproxy⟩ := settings_timeEntries (length_integer_lt hugeTime_lt)
  have hpresent : present s.appName ≠ none := by
    rw [hname]
    decide
  have hlong : s.Overlong := by
    rw [Settings.Overlong, hconnect]
    exact .inl (Int.ofNat_le.mpr tooLong_le_hugeTime)
  have hcaught := hhandled.caught
  rw [Report.validate_of_overlong hs hproxy hpresent hlong] at hcaught
  cases hcaught

end Command

end ObjectStorage

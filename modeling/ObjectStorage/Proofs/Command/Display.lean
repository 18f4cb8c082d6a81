import ObjectStorage.Proofs.Command.Endings
import ObjectStorage.Proofs.Document.Numbers
import ObjectStorage.Proofs.Environment.Image

/-!
# How `show` ends

* `Report.ShownBeside`: a report of `show` that is content or says what is invalid, beside one of `validate`
  in the same environment and form.
* `Report.shownBeside_of_fault`: on an environment without settings the two say the same.
* `Report.shownBeside_of_settings`: on texts with settings, these are printed.
* `show_beside_validate`: so on every environment of texts `show` ends in one of these two ways.
-/

namespace ObjectStorage.Command

open ObjectStorage.Text.Numeral

namespace Report

/-- A report of `show` that no fault ended, beside a report of `validate` in the same environment and
form. -/
structure ShownBeside (env : Environment) (json : Bool) (shown checked : Report) : Prop where
  caught : shown.uncaught = none
  exitCode : shown.exitCode = exitOk ∨ shown.exitCode = exitInvalid
  /-- Something is invalid exactly if there is no draft of the environment. -/
  invalid_iff : shown.exitCode = exitInvalid ↔ ∃ f, env.draft.result = .error f
  /-- What is invalid is told in the words of `validate`. -/
  same : shown.exitCode = exitInvalid → checked = shown
  /-- Otherwise the settings that are built from the environment are printed, and none of their
  integers has too many digits. -/
  printed : shown.exitCode = exitOk → ∃ d s, env.draft.result = .ok d ∧
    (∀ content, (d.build content).result = .ok s) ∧
    shown = .done (if json then s.document.json else s.entries.outline) ∧
    ∀ n ∈ s.document.numbers, (digits n.natAbs).length ≤ digitLimit
  /-- Whatever `validate` is content with can be shown. -/
  exitOk_of_checked : checked.exitCode = exitOk → shown.exitCode = exitOk

variable {env : Environment} {json : Bool}

/-- Without settings, `show` and `validate` say the same. -/
theorem shownBeside_of_fault {f : Fault} (h : env.settings = .error f) (refusal : Option Refusal) :
    ShownBeside env json (.display env json) (.validate env json refusal) := by
  have hdraft := congrArg Outcome.result (Environment.draft_of_error h)
  obtain ⟨e, -, rfl⟩ := Environment.settings_eq_error_iff.mp h
  have hshown : display env json = invalid json e := display_of_error h json
  have hchecked : validate env json refusal = invalid json e := validate_of_error h json refusal
  have hcode : (invalid json e).exitCode = exitInvalid := exitCode_invalid
  have hne : (invalid json e).exitCode ≠ exitOk := by
    rw [hcode]
    decide
  rw [hshown, hchecked]
  exact {
    caught := uncaught_invalid
    exitCode := .inr hcode
    invalid_iff := iff_of_true hcode ⟨_, hdraft⟩
    same := fun _ => rfl
    printed := fun hok => absurd hok hne
    exitOk_of_checked := fun hok => absurd hok hne }

/-- Settings of an environment of texts are printed. -/
theorem shownBeside_of_settings {E : List (String × String)} {s : Settings}
    (h : (Environment.ofTexts E).settings = .ok s) (checked : Report) :
    ShownBeside (.ofTexts E) json (.display (.ofTexts E) json) checked := by
  have hfrom : s.FromTexts := Environment.fromTexts_of_settings h
  have hshown : display (.ofTexts E) json =
      .done (if json then s.document.json else s.entries.outline) := by
    rw [display_of_settings h, Settings.entries_print hfrom]
    rfl
  have hdraft := Environment.draft_of_settings h
  have hcode (text : String) : (done text).exitCode ≠ exitInvalid := by
    show exitOk ≠ exitInvalid
    decide
  rw [hshown]
  exact {
    caught := rfl
    exitCode := .inl rfl
    invalid_iff := by
      refine iff_of_false (hcode _) ?_
      rintro ⟨f, hf⟩
      rw [hdraft] at hf
      cases hf
    same := fun hinvalid => absurd hinvalid (hcode _)
    printed := fun _ => ⟨.reopen s, s, hdraft, fun content => by rw [Draft.build_reopen]; rfl, rfl,
      fun _ hn => Settings.length_digits_of_mem_numbers hfrom hn⟩
    exitOk_of_checked := fun _ => rfl }

end Report

/-- **`show` always ends with the settings or with what is invalid.** On every environment of texts it
prints the settings that are built from the environment, all of whose integers have few enough digits to
be written, or, exactly if there is no draft of the environment, it ends as `validate` does in the same
form, with the same report. No fault ends it, and it shows whatever `validate` is content with. -/
theorem show_beside_validate (E : List (String × String)) {words words' : List String} {json : Bool}
    (hshow : Request.parse words = .run json .display)
    (hvalidate : Request.parse words' = .run json .validate) (known known' : Bool)
    (refusal refusal' : Option Refusal) :
    ∃ shown checked, Response.ofWords words (.ofTexts E) known refusal = .report shown ∧
      Response.ofWords words' (.ofTexts E) known' refusal' = .report checked ∧
      Report.ShownBeside (.ofTexts E) json shown checked := by
  refine ⟨.display (.ofTexts E) json, .validate (.ofTexts E) json refusal', ?_, ?_, ?_⟩
  · rw [Response.ofWords, hshow]
  · rw [Response.ofWords, hvalidate]
  · cases hs : (Environment.ofTexts E).settings with
    | error f => exact Report.shownBeside_of_fault hs refusal'
    | ok s => exact Report.shownBeside_of_settings hs _

/-- Entries with an integer in a loose form and without the name of the application. -/
def namelessTexts : List (String × String) :=
  [("CLOUDSTORE_BATCH_THREADS", " +00__1_2.0 "), ("PATH", "/bin")]

theorem show_beside_validate_namelessTexts :
    Request.parse ["--json", "show"] = .run true .display ∧
      Request.parse ["--json", "validate"] = .run true .validate ∧
      ∃ shown checked,
        Response.ofWords ["--json", "show"] (.ofTexts namelessTexts) true none = .report shown ∧
        Response.ofWords ["--json", "validate"] (.ofTexts namelessTexts) true none =
          .report checked ∧
        shown.exitCode = exitOk ∧ checked.exitCode = exitInvalid ∧
        Report.ShownBeside (.ofTexts namelessTexts) true shown checked := by
  have hshow : Request.parse ["--json", "show"] = .run true .display := by decide
  have hvalidate : Request.parse ["--json", "validate"] = .run true .validate := by decide
  have hdraft : (Environment.ofTexts namelessTexts).draft.result =
      .ok (.reopen { Settings.default with batchThreads := 12 }) := Environment.draft_of_settings rfl
  obtain ⟨shown, checked, hshown, hchecked, hbeside⟩ :=
    show_beside_validate namelessTexts hshow hvalidate true true none none
  have hinvalid : shown.exitCode ≠ exitInvalid := by
    intro h
    obtain ⟨f, hf⟩ := hbeside.invalid_iff.mp h
    rw [hdraft] at hf
    cases hf
  have hcode : checked.exitCode = exitInvalid := by
    rw [Response.ofWords, hvalidate] at hchecked
    rw [← Response.report.inj hchecked]
    rfl
  exact ⟨hshow, hvalidate, shown, checked, hshown, hchecked, hbeside.exitCode.resolve_right hinvalid,
    hcode, hbeside⟩

end ObjectStorage.Command

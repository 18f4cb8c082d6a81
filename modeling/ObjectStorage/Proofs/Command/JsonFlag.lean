import ObjectStorage.Proofs.Command.Endings
import ObjectStorage.Proofs.Document.JsonReader

/-!
# Two forms of one answer

* `Report.SameEnding`: a plain report and one in JSON that end alike and say the same.
* `SameEnding.of_invalid`, `of_crash`, `of_fault`, `of_valid`, `of_printed`: the ways in which the
  commands end.
* `Report.sameEnding_display`, `sameEnding_validate`: both commands, with and without JSON.
* `json_flag`: `--json` in front of a command line changes nothing but the form of the answer.
-/

namespace ObjectStorage.Command

namespace Report

/-- A plain report of a command in an environment, and one in JSON, end alike and say the same. -/
structure SameEnding (env : Environment) (c : Subcommand) (plain json : Report) : Prop where
  exitCode : json.exitCode = plain.exitCode
  uncaught : json.uncaught = plain.uncaught
  /-- An invalid configuration is an error on a line, or a document with the same message. -/
  invalid : plain.exitCode = exitInvalid → ∃ field reason,
    plain.stdout = "" ∧ plain.stderr = "Error: " ++ (field ++ " " ++ reason) ++ "\n" ∧
      json.stderr = "" ∧
      Json.read? json.stdout = some (.object [("valid", .flag false), ("field", .text field),
        ("error", .text (field ++ " " ++ reason))])
  /-- The settings that are shown are those that are built from the environment. -/
  shown : c = .display → plain.exitCode = exitOk → ∃ d s, env.draft.result = .ok d ∧
    (∀ content, (d.build content).result = .ok s) ∧ Json.read? json.stdout = some s.document
  /-- The command is content in a word, or in a document. -/
  content : c = .validate → plain.exitCode = exitOk →
    plain.stdout = "OK\n" ∧ Json.read? json.stdout = some (.object [("valid", .flag true)])

variable {env : Environment} {c : Subcommand} {s : Settings}

theorem SameEnding.of_invalid (e : InvalidConfiguration) :
    SameEnding env c (.invalid false e) (.invalid true e) where
  exitCode := by simp
  uncaught := by simp
  invalid _ := ⟨e.field, e.reason, rfl, rfl, rfl, Json.read?_json _⟩
  shown _ h := by cases h
  content _ h := by cases h

theorem SameEnding.of_error {r : Report} (h : r.exitCode = exitError) : SameEnding env c r r where
  exitCode := rfl
  uncaught := rfl
  invalid hcode := by rw [h] at hcode; cases hcode
  shown _ hcode := by rw [h] at hcode; cases hcode
  content _ hcode := by rw [h] at hcode; cases hcode

/-- A fault ends both forms alike. -/
theorem SameEnding.of_fault (f : Fault) : SameEnding env c (.ofFault false f) (.ofFault true f) := by
  by_cases hkind : f.kind = .configuration
  · obtain ⟨e, rfl⟩ := eq_configuration_of_kind hkind
    exact of_invalid e
  · rw [ofFault_of_kind_ne hkind, ofFault_of_kind_ne hkind]
    exact of_error rfl

theorem SameEnding.of_valid : SameEnding env .validate (.valid false) (.valid true) where
  exitCode := rfl
  uncaught := rfl
  invalid h := by cases h
  shown h := by cases h
  content _ _ := ⟨rfl, Json.read?_json _⟩

/-- Printed settings are those of the environment, and an integer that cannot be printed ends both
forms alike. -/
theorem SameEnding.of_printed (hs : env.settings = .ok s) :
    SameEnding env .display (.ofPrinted (s.entries.print false)) (.ofPrinted (s.entries.print true)) := by
  unfold Entries.print
  split
  · exact {
      exitCode := rfl
      uncaught := rfl
      invalid := fun h => by cases h
      shown := fun _ _ => ⟨.reopen s, s, Environment.draft_of_settings hs, fun content => by
        rw [Draft.build_reopen]; rfl, Json.read?_json _⟩
      content := fun h => by cases h }
  · exact of_error rfl

/-- Showing the settings comes to the same in both forms. -/
theorem sameEnding_display (env : Environment) :
    SameEnding env .display (.display env false) (.display env true) := by
  cases hs : env.settings with
  | error f =>
    rw [display_of_error hs, display_of_error hs]
    exact .of_fault f
  | ok s =>
    rw [display_of_settings hs, display_of_settings hs]
    exact .of_printed hs

/-- Checking the settings comes to the same in both forms. -/
theorem sameEnding_validate (env : Environment) (refusal : Option Refusal) :
    SameEnding env .validate (.validate env false refusal) (.validate env true refusal) := by
  cases hs : env.settings with
  | error f =>
    rw [validate_of_error hs, validate_of_error hs]
    exact .of_fault f
  | ok s =>
    unfold validate
    rw [hs]
    dsimp only
    cases s.check with
    | error f => exact .of_fault f
    | ok u =>
      cases refusal with
      | some r => exact .of_error rfl
      | none =>
        unfold configured
        dsimp only
        cases s.clientConfig with
        | error f => exact .of_fault f
        | ok config => exact .of_valid

end Report

/-- **`--json` changes nothing but the form of the answer.** A command line with it in front ends
with the exit code, and with the uncaught fault if there is one, of the line without it. What is invalid is
told in the same message, shown settings are read back as those of the environment, and a check that
succeeds says so in either form. -/
theorem json_flag {words : List String} {c : Subcommand}
    (hwords : Request.parse words = .run false c) (env : Environment) (known : Bool)
    (refusal : Option Refusal) :
    ∃ plain json, Response.ofWords words env known refusal = .report plain ∧
      Response.ofWords ("--json" :: words) env known refusal = .report json ∧
      Report.SameEnding env c plain json := by
  have hjson := Request.parse_json_cons hwords
  cases c with
  | display =>
    exact ⟨_, _, by rw [Response.ofWords, hwords], by rw [Response.ofWords, hjson],
      Report.sameEnding_display env⟩
  | validate =>
    exact ⟨_, _, by rw [Response.ofWords, hwords], by rw [Response.ofWords, hjson],
      Report.sameEnding_validate env refusal⟩

/-- An environment whose fault quotes a text that is escaped in JSON. -/
def quotedEnvironment : Environment := .ofTexts [("CLOUDSTORE_TRANSPORT_TYPE", "\"é\"")]

theorem json_flag_quotedEnvironment :
    Request.parse ["show"] = .run false .display ∧
      ∃ plain json, Response.ofWords ["show"] quotedEnvironment true none = .report plain ∧
        Response.ofWords ["--json", "show"] quotedEnvironment true none = .report json ∧
        plain.exitCode = exitInvalid ∧ json.exitCode = exitInvalid ∧
        Report.SameEnding quotedEnvironment .display plain json := by
  have hwords : Request.parse ["show"] = .run false .display := by decide
  obtain ⟨plain, json, hplain, hjson, hsame⟩ := json_flag hwords quotedEnvironment true none
  have hexit : plain.exitCode = exitInvalid := by
    rw [Response.ofWords, hwords] at hplain
    rw [← Response.report.inj hplain]
    rfl
  exact ⟨hwords, plain, json, hplain, hjson, hexit, hsame.exitCode.trans hexit, hsame⟩

end ObjectStorage.Command

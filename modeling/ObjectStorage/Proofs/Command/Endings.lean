import ObjectStorage.Command.Report
import ObjectStorage.Proofs.Environment.Drafts

/-!
# How the commands end

* `Report.exitCode_valid`, `Report.exitCode_invalid`: the form of a report does not change its exit code.
* `Report.ofFault_of_kind_ne`: only an invalid configuration is reported.
* `Settings.configured`: the check of settings and the configuration made of them, in this order.
* `Report.display_of_settings`, `Report.validate_of_settings`: `show` prints the settings of the environment,
  and `validate` says what `Settings.configured` comes to. Without settings both say what is invalid.
* `Settings.client_result`: so does a client, before it looks at its endpoint.
* `Settings.refusal?`: what a client library says to the configuration for some settings.
* `Request.parse_json_cons`: `--json` in front of a command line asks for the same command.
-/

namespace ObjectStorage

/-! ## Reports -/

namespace Command.Report

variable {json : Bool} {e : InvalidConfiguration} {f : Fault}

@[simp] theorem exitCode_valid : (valid json).exitCode = exitOk := by
  cases json <;> rfl

@[simp] theorem uncaught_valid : (valid json).uncaught = none := by
  cases json <;> rfl

@[simp] theorem exitCode_invalid : (invalid json e).exitCode = exitInvalid := by
  cases json <;> rfl

@[simp] theorem uncaught_invalid : (invalid json e).uncaught = none := by
  cases json <;> rfl

/-- A fault other than an invalid configuration ends a command without a word. -/
theorem ofFault_of_kind_ne (h : f.kind ≠ .configuration) : ofFault json f = crashed f := by
  cases f with
  | configuration e => exact absurd rfl h
  | _ => rfl

theorem eq_configuration_of_kind (h : f.kind = .configuration) : ∃ e, f = .configuration e := by
  cases f with
  | configuration e => exact ⟨e, rfl⟩
  | _ => cases h

end Command.Report

/-! ## One computation behind `validate` and clients -/

namespace Settings

variable {s : Settings}

/-- The check of settings and the configuration made of them, in this order. -/
def configured (s : Settings) : Except Fault ClientConfig := do
  s.check
  s.clientConfig

/-- A client is what the settings are configured to, if requests can be sent to the endpoint. -/
theorem client_result (s : Settings) (region endpoint : Option String) :
    (s.client region endpoint).result =
      s.configured.bind fun config =>
        (Endpoint.check endpoint).map fun _ => ⟨endpoint, region, config⟩ := by
  unfold client configured
  cases s.check with
  | error e => rfl
  | ok u =>
    show (s.clientConfig >>= _) = s.clientConfig.bind _
    cases s.clientConfig with
    | error e => rfl
    | ok config => cases Endpoint.check endpoint <;> rfl

/-- The configuration that is made of checked settings. -/
theorem clientConfig_of_configured {config : ClientConfig} (h : s.configured = .ok config) :
    s.clientConfig = .ok config := by
  unfold configured at h
  cases hcheck : s.check with
  | error e => rw [hcheck] at h; cases h
  | ok u => rw [hcheck] at h; exact h

/-- What a client library says to the configuration for some settings, if it comes to that. -/
def refusal? (s : Settings) (refuse : ClientConfig → Option Command.Refusal) :
    Option Command.Refusal :=
  match s.clientConfig with
  | .ok config => refuse config
  | .error _ => none

end Settings

namespace Command

variable {env : Environment} {s : Settings} {json json' : Bool}

theorem Report.display_of_settings (h : env.settings = .ok s) (json : Bool) :
    display env json = ofPrinted (s.entries.print json) := by
  rw [display, h]

theorem Report.display_of_error {f : Fault} (h : env.settings = .error f) (json : Bool) :
    display env json = ofFault json f := by
  rw [display, h]

theorem Report.validate_of_error {f : Fault} (h : env.settings = .error f) (json : Bool)
    (refusal : Option Refusal) : validate env json refusal = ofFault json f := by
  rw [validate, h]

/-- `validate` says what the settings of the environment are configured to. -/
theorem Report.validate_of_settings (h : env.settings = .ok s) (json : Bool) :
    validate env json none =
      match s.configured with
      | .ok _ => valid json
      | .error f => ofFault json f := by
  unfold validate Settings.configured
  rw [h]
  dsimp only
  cases s.check <;> rfl

/-! ## Command lines -/

theorem Subcommand.request_eq_run {command c : Subcommand} {words : List String}
    (h : command.request json words = .run json' c) (b : Bool) : command.request b words = .run b c := by
  unfold request at h ⊢
  cases hread : Words.readAll words with
  | none => rw [hread] at h; cases h
  | some w =>
    simp only [hread] at h ⊢
    by_cases hhelp : w.help = true
    · rw [if_pos hhelp] at h
      cases h
    · rw [if_neg hhelp] at h ⊢
      by_cases hstray : w.stray = true
      · rw [if_pos hstray] at h
        cases h
      · rw [if_neg hstray] at h ⊢
        obtain ⟨-, rfl⟩ := Request.run.inj h
        rfl

theorem Flag.readAll_json_cons (words : List String) :
    readAll ("--json" :: words) = (readAll words).map fun r => (.json :: r.1, r.2) := by
  rw [readAll, if_neg (by decide), if_pos (by decide)]
  cases readAll words <;> rfl

theorem Flag.ne_run_of_findSome? {flags : List Flag} {request : Request} {c : Subcommand}
    (h : flags.findSome? Flag.request? = some request) : request ≠ .run json c := by
  obtain ⟨flag, -, hflag⟩ := List.exists_of_findSome?_eq_some h
  cases flag <;> cases hflag <;> simp

theorem Request.withoutCommand_ne_run {words : List String} {c : Subcommand} :
    withoutCommand words ≠ .run json c := by
  unfold withoutCommand
  cases Flag.readAll words with
  | none => simp
  | some r =>
    show (r.1.findSome? Flag.request?).getD .usageError ≠ _
    cases hflags : r.1.findSome? Flag.request? with
    | none => simp
    | some request => exact Flag.ne_run_of_findSome? hflags

/-- `--json` in front of a command line asks for the same command. -/
theorem Request.parse_json_cons {words : List String} {c : Subcommand}
    (h : parse words = .run json c) : parse ("--json" :: words) = .run true c := by
  have hne : words ≠ [] := by
    rintro rfl
    cases h
  unfold parse at h ⊢
  rw [if_neg hne] at h
  rw [if_neg (by simp), Flag.readAll_json_cons]
  cases hwords : Flag.readAll words with
  | none => rw [hwords] at h; cases h
  | some r =>
    obtain ⟨flags, rest⟩ := r
    rw [hwords] at h
    simp only [Option.map_some, List.findSome?_cons, Flag.request?] at h ⊢
    -- an option that wins asks for no command, and neither does a line without one
    cases hflags : flags.findSome? Flag.request? with
    | some request =>
      rw [hflags] at h
      exact absurd h (Flag.ne_run_of_findSome? hflags)
    | none =>
      rw [hflags] at h
      cases rest with
      | nil => cases h
      | cons name more =>
        cases hname : Subcommand.ofName? name with
        | none =>
          simp only [hname] at h
          exact absurd h withoutCommand_ne_run
        | some command =>
          simp only [hname] at h ⊢
          exact Subcommand.request_eq_run h true

end Command

end ObjectStorage

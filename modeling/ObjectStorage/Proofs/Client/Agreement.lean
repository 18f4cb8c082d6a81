import ObjectStorage.Proofs.Client.Config
import ObjectStorage.Proofs.Client.Endpoint
import ObjectStorage.Proofs.Command.Endings

/-!
# `validate` and clients agree

* `Report.refused`: the report of a configuration that the client library does not take.
* `Agrees`: the report of `validate` and the making of a client come to the same.
* `Settings.refusal?_eq_none`: a library that takes every count of retries from zero on takes the
  configuration for any settings.
* `Settings.client_log`: a client is announced exactly if the settings name the application.
* `validate_agrees_client`: on every environment with settings, `validate` and a client for any region
  and any plain endpoint agree.
-/

namespace ObjectStorage

open Command

/-! ## Agreement -/

/-- The report of a configuration that the client library does not take. -/
def Command.Report.refused (r : Refusal) : Report :=
  ⟨exitError, "", errorLine ("Cannot build client config: " ++ r.message), none⟩

/-- The report of `validate` and the making of a client come to the same. -/
structure Agrees (json : Bool) (report : Report) (made : Except Fault Client) : Prop where
  /-- The command is content exactly if there is a client. -/
  done_iff : report.exitCode = exitOk ↔ ∃ client, made = .ok client
  /-- What the command calls invalid is what keeps the client from being made. -/
  invalid : report.exitCode = exitInvalid →
    ∃ e, report = .invalid json e ∧ made = .error (.configuration e)
  /-- A fault that ends the command ends the making of the client. -/
  crashed : ∀ f, report.uncaught = some f → made = .error f
  /-- The client library takes the configuration. -/
  unrefused : ∀ r, report ≠ .refused r

variable {json : Bool} {e : InvalidConfiguration} {f : Fault} {s : Settings}

theorem Agrees.of_client (client : Client) : Agrees json (.valid json) (.ok client) where
  done_iff := by simp
  invalid h := by rw [Report.exitCode_valid] at h; cases h
  crashed f h := by rw [Report.uncaught_valid] at h; cases h
  unrefused r h := by
    have hcode := congrArg Report.exitCode h
    rw [Report.exitCode_valid] at hcode
    cases hcode

theorem Agrees.of_configuration (e : InvalidConfiguration) :
    Agrees json (.invalid json e) (.error (.configuration e)) where
  done_iff := by simp [exitInvalid, exitOk]
  invalid _ := ⟨e, rfl, rfl⟩
  crashed f h := by rw [Report.uncaught_invalid] at h; cases h
  unrefused r h := by
    have hcode := congrArg Report.exitCode h
    rw [Report.exitCode_invalid] at hcode
    cases hcode

theorem Agrees.of_crash (f : Fault) : Agrees json (.crashed f) (.error f) where
  done_iff := by simp [Report.crashed, exitError, exitOk]
  invalid h := by cases h
  crashed g h := by rw [Option.some.inj h]
  unrefused r h := by cases congrArg Report.uncaught h

/-- Any fault is reported as what keeps a client from being made. -/
theorem Agrees.of_fault (f : Fault) : Agrees json (.ofFault json f) (.error f) := by
  by_cases hkind : f.kind = .configuration
  · obtain ⟨e, rfl⟩ := Report.eq_configuration_of_kind hkind
    exact .of_configuration e
  · rw [Report.ofFault_of_kind_ne hkind]
    exact .of_crash f

/-! ## The parts of a client -/

namespace Settings

/-- A library that takes every count of retries from zero on takes the configuration for any
settings. -/
theorem refusal?_eq_none {refuse : ClientConfig → Option Refusal}
    (h : ∀ config : ClientConfig, 0 ≤ config.maxAttempts → refuse config = none) (s : Settings) :
    s.refusal? refuse = none := by
  unfold refusal?
  cases hconfig : s.clientConfig with
  | error e => rfl
  | ok config =>
    refine h config ?_
    rw [maxAttempts_of_clientConfig hconfig]
    exact Int.le_max_left 0 _

/-- A client is announced exactly if the settings name the application, whatever comes after. -/
theorem client_log (s : Settings) (region endpoint : Option String) :
    (s.client region endpoint).log =
      (present s.appName).toList.map fun app => .creating app endpoint s.transport := by
  unfold client check
  cases hname : s.appName with
  | none => rfl
  | some app =>
    by_cases hempty : app = ""
    · simp [present, hempty, Outcome.fail]
    · simp [present, hempty]

/-- A client that is made goes to the endpoint in the region, with the configuration for the settings. -/
theorem eq_of_client {region endpoint : Option String} {client : Client}
    (h : (s.client region endpoint).result = .ok client) :
    client.endpoint = endpoint ∧ client.region = region ∧ s.clientConfig = .ok client.config := by
  rw [client_result] at h
  cases hconfig : s.configured with
  | error e => rw [hconfig] at h; cases h
  | ok config =>
    rw [hconfig] at h
    cases hcheck : Endpoint.check endpoint with
    | error e => rw [hcheck] at h; cases h
    | ok u =>
      rw [hcheck] at h
      obtain rfl := Except.ok.inj h
      exact ⟨rfl, rfl, clientConfig_of_configured hconfig⟩

end Settings

/-! ## Both on one environment -/

/-- **`validate` and clients agree.** On every environment with settings, with any client library
that takes every count of retries from zero on, `validate` is content exactly if a client can be made
for those settings, in any region and for any plain endpoint. What it calls invalid, and any fault that
ends it, is what keeps the client from being made. A client has the configuration for the settings, its
retries counted as attempts, and is announced exactly if the settings name the application. -/
theorem validate_agrees_client {env : Environment} {d : Draft} {content : ChannelId → WriteChannel}
    {s : Settings} (hdraft : env.draft.result = .ok d) (hbuild : (d.build content).result = .ok s)
    {refuse : ClientConfig → Option Refusal}
    (hrefuse : ∀ config : ClientConfig, 0 ≤ config.maxAttempts → refuse config = none)
    {words : List String} {json : Bool} (hwords : Request.parse words = .run json .validate)
    (known : Bool) (region : Option String) {endpoint : Option String}
    (hendpoint : ∀ url, endpoint = some url → Endpoint.IsPlain url) :
    (∃ report, Response.ofWords words env known (s.refusal? refuse) = .report report ∧
        Agrees json report (s.client region endpoint).result) ∧
      (∀ client, (s.client region endpoint).result = .ok client →
        client.endpoint = endpoint ∧ client.region = region ∧ s.clientConfig = .ok client.config ∧
          client.totalAttempts = max 0 s.maxHttpRequestRetries + 1) ∧
      (s.client region endpoint).log =
        (present s.appName).toList.map fun app => .creating app endpoint s.transport := by
  have hsettings : env.settings = .ok s := by
    obtain ⟨s', hs', rfl⟩ := Environment.draft_eq_ok_iff.mp hdraft
    rw [Draft.build_reopen] at hbuild
    rwa [← Except.ok.inj hbuild]
  have hcheck : Endpoint.check endpoint = .ok () := by
    cases endpoint with
    | none => rfl
    | some url => exact Endpoint.check_of_isPlain (hendpoint url rfl)
  have hreport : Response.ofWords words env known (s.refusal? refuse) =
      .report (.validate env json none) := by
    rw [Response.ofWords, hwords, Settings.refusal?_eq_none hrefuse]
  refine ⟨⟨_, hreport, ?_⟩, fun client hclient => ?_, s.client_log region endpoint⟩
  · rw [Report.validate_of_settings hsettings, Settings.client_result, hcheck]
    cases s.configured with
    | error f => exact .of_fault f
    | ok config => exact .of_client ⟨endpoint, region, config⟩
  · obtain ⟨hurl, hregion, hconfig⟩ := Settings.eq_of_client hclient
    refine ⟨hurl, hregion, hconfig, ?_⟩
    rw [Client.totalAttempts, Settings.maxAttempts_of_clientConfig hconfig]

/-- A library that takes no negative count of retries. -/
def refuseNegative (config : ClientConfig) : Option Refusal :=
  if config.maxAttempts < 0 then some ⟨config.maxAttempts, 0⟩ else none

/-- Entries that name the application and ask for a negative count of retries. -/
def hastyEntries : List (String × String) :=
  [("CLOUDSTORE_APP_NAME", "web"), ("CLOUDSTORE_MAX_HTTP_REQUEST_RETRIES", "-3")]

/-- The settings of these entries. -/
def hastySettings : Settings :=
  { Settings.default with appName := some "web", maxHttpRequestRetries := -3 }

/-- Entries that name the application and give the address of a proxy. -/
def proxyEntries (address : String) : List (String × String) :=
  [("CLOUDSTORE_APP_NAME", "web"), ("CLOUDSTORE_PROXY_ADDRESS", address)]

/-- The settings of these entries. -/
def proxySettings (address : String) : Settings :=
  { Settings.default with appName := some "web", proxyAddress := some address }

theorem validate_agrees_hastyClient :
    Endpoint.IsPlain "https://store.test" ∧
      ((Environment.ofTexts hastyEntries).draft.result = .ok (.reopen hastySettings) ∧
        Response.ofWords ["validate"] (.ofTexts hastyEntries) true
          (hastySettings.refusal? refuseNegative) = .report ⟨exitOk, "OK\n", "", none⟩ ∧
        (∃ client, (hastySettings.client none (some "https://store.test")).result = .ok client ∧
          client.totalAttempts = 1) ∧
        (hastySettings.client none (some "https://store.test")).log =
          [.creating "web" (some "https://store.test") .urllib3]) ∧
      ((Environment.ofTexts (proxyEntries "h:80x")).draft.result = .ok (.reopen (proxySettings "h:80x")) ∧
        Response.ofWords ["validate"] (.ofTexts (proxyEntries "h:80x")) true
            ((proxySettings "h:80x").refusal? refuseNegative) =
          .report ⟨exitInvalid, "",
            "Error: proxy_address must be in the form host:port, got 'h:80x'\n", none⟩ ∧
        ∃ e, ((proxySettings "h:80x").client none (some "https://store.test")).result =
            .error (.configuration e) ∧
          errorLine e.message = "Error: proxy_address must be in the form host:port, got 'h:80x'\n") ∧
      (Environment.ofTexts (proxyEntries "[::1:80")).draft.result =
        .ok (.reopen (proxySettings "[::1:80")) ∧
      Response.ofWords ["validate"] (.ofTexts (proxyEntries "[::1:80")) true
          ((proxySettings "[::1:80").refusal? refuseNegative) =
        .report ⟨exitError, "", "", some (.address .brackets)⟩ ∧
      ((proxySettings "[::1:80").client none (some "https://store.test")).result =
        .error (.address .brackets) := by
  have hplain : Endpoint.IsPlain "https://store.test" :=
    @Endpoint.IsPlain.name "https" "store.test" (by decide) (by decide)
  have hrefuse (config : ClientConfig) (h : 0 ≤ config.maxAttempts) : refuseNegative config = none :=
    if_neg (by omega)
  have hwords : Request.parse ["validate"] = .run false .validate := by decide
  have hendpoint (url : String) (h : some "https://store.test" = some url) : Endpoint.IsPlain url :=
    Option.some.inj h ▸ hplain
  have hboth {E : List (String × String)} {s : Settings}
      (hdraft : (Environment.ofTexts E).draft.result = .ok (.reopen s)) :=
    validate_agrees_client hdraft (congrArg Outcome.result (Draft.build_reopen s fun _ => .default))
      hrefuse hwords true none hendpoint
  have hagree {E : List (String × String)} {s : Settings} {report : Report}
      (hdraft : (Environment.ofTexts E).draft.result = .ok (.reopen s))
      (hreport : Response.ofWords ["validate"] (.ofTexts E) true (s.refusal? refuseNegative) =
        .report report) :
      Agrees false report (s.client none (some "https://store.test")).result := by
    obtain ⟨⟨report', hreport', hagrees⟩, -⟩ := hboth hdraft
    rwa [Response.report.inj (hreport.symm.trans hreport')]
  refine ⟨hplain, ?_, ?_, ?_⟩
  · -- a count of retries below zero comes to one attempt
    have hdraft : (Environment.ofTexts hastyEntries).draft.result = .ok (.reopen hastySettings) :=
      Environment.draft_of_settings rfl
    have hvalid : Response.ofWords ["validate"] (.ofTexts hastyEntries) true
        (hastySettings.refusal? refuseNegative) = .report ⟨exitOk, "OK\n", "", none⟩ := by
      rw [Response.ofWords, hwords, Settings.refusal?_eq_none hrefuse]
      rfl
    obtain ⟨-, hclient, hlog⟩ := hboth hdraft
    obtain ⟨client, hmade⟩ := (hagree hdraft hvalid).done_iff.mp rfl
    exact ⟨hdraft, hvalid, ⟨client, hmade, (hclient client hmade).2.2.2⟩, hlog⟩
  · -- an address that is not of the form is called invalid
    have hdraft : (Environment.ofTexts (proxyEntries "h:80x")).draft.result =
        .ok (.reopen (proxySettings "h:80x")) := Environment.draft_of_settings rfl
    have hinvalid : Response.ofWords ["validate"] (.ofTexts (proxyEntries "h:80x")) true
        ((proxySettings "h:80x").refusal? refuseNegative) = .report ⟨exitInvalid, "",
          "Error: proxy_address must be in the form host:port, got 'h:80x'\n", none⟩ := rfl
    obtain ⟨e, he, hmade⟩ := (hagree hdraft hinvalid).invalid rfl
    exact ⟨hdraft, hinvalid, e, hmade, (congrArg Report.stderr he).symm⟩
  · -- an address whose bracket is left open ends both
    have hdraft : (Environment.ofTexts (proxyEntries "[::1:80")).draft.result =
        .ok (.reopen (proxySettings "[::1:80")) := Environment.draft_of_settings rfl
    have hcrash : Response.ofWords ["validate"] (.ofTexts (proxyEntries "[::1:80")) true
        ((proxySettings "[::1:80").refusal? refuseNegative) =
          .report ⟨exitError, "", "", some (.address .brackets)⟩ := rfl
    exact ⟨hdraft, hcrash, (hagree hdraft hcrash).crashed _ rfl⟩

end ObjectStorage

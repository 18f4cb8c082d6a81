import ObjectStorage.Proofs.Client.Times

/-!
# What a client configuration depends on

* `SameText`, `SameTime`: texts and times that a client cannot tell apart.
* `Settings.AlikeToClient`: settings that agree, so far, on retries, threads, times, name and proxy.
* `Settings.clientConfig_congr`: such settings have the same configuration, or the same fault.
* `ClientConfig.InRange`: what is true of the configuration of any settings.
* `Settings.clientConfig_of_six`: every configuration is in range, and those of settings that are alike are equal.
-/

namespace ObjectStorage

/-! ## Texts and times -/

/-- Two texts are the same, or each is missing or empty. -/
def SameText (a b : Option String) : Prop :=
  a = b ∨ (a ∈ [none, some ""] ∧ b ∈ [none, some ""])

/-- Two times are the same, or neither is positive. -/
def SameTime (t t' : Int) : Prop :=
  t = t' ∨ (t ≤ 0 ∧ t' ≤ 0)

theorem present_eq_none_iff {a : Option String} : present a = none ↔ a = none ∨ a = some "" := by
  cases a with
  | none => simp [present]
  | some s => by_cases hs : s = "" <;> simp [present, hs]

/-- A text that is present is the text itself. -/
theorem eq_some_of_present {a : Option String} {s : String} (h : present a = some s) :
    a = some s := by
  cases a with
  | none => cases h
  | some t =>
    by_cases ht : t = ""
    · simp [present, ht] at h
    · simpa [present, ht] using h

theorem present_congr {a b : Option String} (h : SameText a b) : present a = present b := by
  rcases h with rfl | ⟨ha, hb⟩
  · rfl
  · have hnone : ∀ c ∈ [none, some ""], present c = none := by decide
    rw [hnone a ha, hnone b hb]

theorem ClientConfig.seconds_congr {t t' : Int} (h : SameTime t t') : seconds t = seconds t' := by
  rcases h with rfl | ⟨ht, ht'⟩
  · rfl
  · rw [seconds_of_nonpos ht, seconds_of_nonpos ht']

/-! ## Settings that a client cannot tell apart -/

namespace Settings

open ClientConfig

/-- Settings agree in what a configuration is made of: the retries unless negative, the threads unless
fewer than the least number of connections, both times, and the texts of the name and the proxy. -/
structure AlikeToClient (s s' : Settings) : Prop where
  retries : max 0 s.maxHttpRequestRetries = max 0 s'.maxHttpRequestRetries
  threads : max 10 s.batchThreads = max 10 s'.batchThreads
  connectTimeout : SameTime s.connectTimeout s'.connectTimeout
  readTimeout : SameTime s.readTimeout s'.readTimeout
  appName : SameText s.appName s'.appName
  proxyAddress : SameText s.proxyAddress s'.proxyAddress

variable {s s' : Settings}

/-- Settings that are alike to a client have the same configuration, or the same fault. -/
theorem clientConfig_congr (h : s.AlikeToClient s') : s.clientConfig = s'.clientConfig := by
  have hproxy : s.proxyUrl? = s'.proxyUrl? := by
    rw [proxyUrl?, proxyUrl?, present_congr h.proxyAddress]
  have hthreads : max leastConnections s.batchThreads = max leastConnections s'.batchThreads :=
    h.threads
  rw [clientConfig, clientConfig, seconds_congr h.connectTimeout, seconds_congr h.readTimeout, hproxy,
    h.retries, hthreads, present_congr h.appName]

end Settings

/-! ## Ranges -/

/-- What is true of the configuration that is made for some settings. -/
structure ClientConfig.InRange (config : ClientConfig) (s : Settings) : Prop where
  retries : config.retries = ⟨max 0 s.maxHttpRequestRetries, "standard"⟩
  attempts_nonneg : 0 ≤ config.retries.maxAttempts
  ten_le_connections : 10 ≤ config.maxPoolConnections
  threads_le_connections : s.batchThreads ≤ config.maxPoolConnections
  connections_eq : config.maxPoolConnections = 10 ∨ config.maxPoolConnections = s.batchThreads
  connectTimeout_pos : 0 < config.connectTimeout
  readTimeout_pos : 0 < config.readTimeout
  proxies_eq_none_iff : config.proxies = none ↔ s.proxyAddress = none ∨ s.proxyAddress = some ""
  proxies_eq : ∀ entries, config.proxies = some entries → ∃ address url,
    s.proxyAddress = some address ∧ Proxy.url address = .ok url ∧
      entries = [("http", url), ("https", url)]
  userAgent_eq_none_iff : config.userAgent = none ↔ s.appName = none ∨ s.appName = some ""
  userAgent_eq : ∀ name, config.userAgent = some name → s.appName = some name

namespace Settings

open ClientConfig

variable {s : Settings}

/-- The proxy is left out exactly if the settings have none. -/
theorem proxyUrl?_eq_ok_none_iff : s.proxyUrl? = .ok none ↔ present s.proxyAddress = none := by
  unfold proxyUrl?
  cases present s.proxyAddress with
  | none => simp
  | some address => cases hurl : Proxy.url address <;> simp [hurl, Except.map]

theorem proxyUrl?_eq_ok_some_iff {url : String} : s.proxyUrl? = .ok (some url) ↔
    ∃ address, present s.proxyAddress = some address ∧ Proxy.url address = .ok url := by
  unfold proxyUrl?
  cases present s.proxyAddress with
  | none => simp
  | some address => cases hurl : Proxy.url address <;> simp [hurl, Except.map]

theorem inRange_of_clientConfig {config : ClientConfig} (h : s.clientConfig = .ok config) :
    config.InRange s := by
  obtain ⟨connect, read, proxy, hconnect, hread, hproxy, rfl⟩ := clientConfig_eq_ok_iff.mp h
  refine
    { retries := rfl
      attempts_nonneg := le_max_left _ _
      ten_le_connections := le_max_left _ _
      threads_le_connections := le_max_right _ _
      connections_eq := max_choice _ _
      connectTimeout_pos := seconds_pos hconnect
      readTimeout_pos := seconds_pos hread
      proxies_eq_none_iff := ?_
      proxies_eq := ?_
      userAgent_eq_none_iff := present_eq_none_iff
      userAgent_eq := fun name => eq_some_of_present }
  · rw [← present_eq_none_iff, ← proxyUrl?_eq_ok_none_iff, hproxy]
    cases proxy <;> simp [proxies]
  · intro entries hentries
    obtain ⟨url, hurl, rfl⟩ := Option.map_eq_some_iff.mp hentries
    obtain rfl : proxy = some url := hurl
    obtain ⟨address, haddress, hok⟩ := proxyUrl?_eq_ok_some_iff.mp hproxy
    exact ⟨address, url, eq_some_of_present haddress, hok, rfl⟩

/-- **A client configuration is in range and depends on six settings alone.** Whatever the settings are, the
retries of their configuration are not negative and in the standard mode, its connections are the threads
but at least ten, its times are positive, and its proxy and its name are left out exactly if the settings
have none; a proxy is the same for both schemes of a request.
Settings that agree in the six that matter, as far as they matter, have the same configuration or the same
fault, whatever the other eleven are. -/
theorem clientConfig_of_six :
    (∀ (s : Settings) (config : ClientConfig), s.clientConfig = .ok config → config.InRange s) ∧
    ∀ s s' : Settings, s.AlikeToClient s' → s.clientConfig = s'.clientConfig :=
  ⟨fun _ _ => inRange_of_clientConfig, fun _ _ => clientConfig_congr⟩

/-- Settings with every value out of its range. -/
def strayed : Settings where
  projectId := some "p"
  appName := some ""
  autoRepairImplicitDirectories := false
  inferImplicitDirectories := false
  markerFileCreation := true
  maxWaitMillisForEmptyObject := -1
  maxListItemsPerCall := -1
  maxRequestsPerBatch := 5000
  batchThreads := -2
  maxHttpRequestRetries := -3
  connectTimeout := -5
  readTimeout := 20000
  transport := .crt
  proxyAddress := some ""
  serverSideCopy := true
  writeChannel := { WriteChannel.default with bufferSize := 0 }
  requesterPays := { RequesterPays.default with mode := .auto }

/-- The defaults with no retries and no connect time. -/
def impatient : Settings :=
  { Settings.default with
    maxHttpRequestRetries := 0
    connectTimeout := 0 }

theorem clientConfig_strayed :
    strayed.AlikeToClient impatient ∧ strayed.clientConfig = impatient.clientConfig ∧
      ∃ config, strayed.clientConfig = .ok config ∧ config.InRange strayed ∧
        config.retries = ⟨0, "standard"⟩ ∧ config.maxPoolConnections = 10 ∧ config.proxies = none := by
  obtain ⟨hrange, hcongr⟩ := clientConfig_of_six
  have halike : strayed.AlikeToClient impatient :=
    ⟨by decide, by decide, .inr (by decide), .inl rfl, .inr (by decide), .inr (by decide)⟩
  have hconfig : strayed.clientConfig = .ok _ := rfl
  exact ⟨halike, hcongr _ _ halike, _, hconfig, hrange _ _ hconfig, rfl, rfl, rfl⟩

end Settings

end ObjectStorage

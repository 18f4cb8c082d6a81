import ObjectStorage.Binary64
import ObjectStorage.Proxy
import ObjectStorage.Settings.Basic

/-!
# The configuration of a client

* `ClientConfig`: what the client library is given: times in seconds, retries, connections, proxy
  and name of the application.
* `ClientConfig.proxies`: the proxy for each scheme of a request.
* `ClientConfig.retries`: how often a request is tried again, and the library's mode of trying.
* `seconds`: a time in milliseconds as a time in seconds, to the nearest binary64 number.
* `present`: a text that is neither missing nor empty.
* `Settings.clientConfig`: the configuration for some settings. The times are computed before the
  proxy is looked at, so of two faults the one of a time comes first.
-/

namespace ObjectStorage

/-- What the client library is given. -/
structure ClientConfig where
  connectTimeout : Rat
  readTimeout : Rat
  maxAttempts : Int
  maxPoolConnections : Int
  proxy : Option String
  userAgent : Option String
  deriving DecidableEq

namespace ClientConfig

/-- The proxy for each scheme of a request, if there is one. -/
def proxies (config : ClientConfig) : Option (List (String × String)) :=
  config.proxy.map fun url => [("http", url), ("https", url)]

/-- How often a client tries a request again, and by which of the library's rules. -/
structure Retries where
  maxAttempts : Int
  mode : String
  deriving DecidableEq

/-- How a client tries requests again; the rules are always the standard ones. -/
def retries (config : ClientConfig) : Retries := ⟨config.maxAttempts, "standard"⟩

/-- The time in seconds of a client that sets none. -/
def defaultTimeout : Rat := 60

/-- The least number of connections that a client keeps. -/
def leastConnections : Int := 10

/-- A time in milliseconds as a time in seconds, to the nearest binary64 number; a time that is not
positive stands for the default. -/
def seconds (millis : Int) : Except Fault Rat :=
  if 0 < millis then
    match Binary64.nearest? millis.toNat 1000 with
    | some r => .ok r
    | none => .error .quotientTooLarge
  else .ok defaultTimeout

end ClientConfig

/-- A text that is neither missing nor empty. -/
def present : Option String → Option String
  | none => none
  | some s => if s = "" then none else some s

namespace Settings

/-- The URL of the proxy, if the settings have one. -/
def proxyUrl? (s : Settings) : Except Fault (Option String) :=
  match present s.proxyAddress with
  | none => .ok none
  | some address => (Proxy.url address).map some

/-- The configuration of a client with these settings. -/
def clientConfig (s : Settings) : Except Fault ClientConfig := do
  let connectTimeout ← ClientConfig.seconds s.connectTimeout
  let readTimeout ← ClientConfig.seconds s.readTimeout
  let proxy ← s.proxyUrl?
  pure {
    connectTimeout
    readTimeout
    maxAttempts := max 0 s.maxHttpRequestRetries
    maxPoolConnections := max ClientConfig.leastConnections s.batchThreads
    proxy
    userAgent := present s.appName }

end Settings

end ObjectStorage

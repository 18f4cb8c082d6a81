import ObjectStorage.Client.Config
import ObjectStorage.Client.Endpoint
import ObjectStorage.Log

/-!
# Making a client

* `Settings.check`: settings are valid if they name the application.
* `Client`: where a client sends its requests, and its configuration.
* `Settings.client`: the check of the settings, the record, the configuration, the check of the
  endpoint, and the client, in this order.
-/

namespace ObjectStorage

/-! ## Valid settings -/

namespace Settings

/-- The fault of settings that do not name the application. -/
def appNameFault : InvalidConfiguration :=
  ⟨Field.key .appName, "must not be None or empty"⟩

/-- Whether the settings name the application. -/
def check (s : Settings) : Except Fault Unit :=
  match present s.appName with
  | some _ => .ok ()
  | none => .error (.configuration appNameFault)

end Settings

/-! ## Clients -/

/-- A client of a storage service. -/
structure Client where
  endpoint : Option String
  region : Option String
  config : ClientConfig
  deriving DecidableEq

/-- How often a client tries a request: once, and again for each retry. -/
def Client.totalAttempts (c : Client) : Int := c.config.maxAttempts + 1

namespace Settings

/-- A client with these settings for a region and an endpoint. -/
def client (s : Settings) (region endpoint : Option String) : Outcome Client :=
  match s.check with
  | .error e => .fail e
  | .ok () =>
    let made := do
      let config ← s.clientConfig
      Endpoint.check endpoint
      pure { endpoint, region, config : Client }
    ⟨made, [.creating (s.appName.getD "") endpoint s.transport], []⟩

end Settings

end ObjectStorage

import ZoneSync.Address.Ip
import ZoneSync.Error
import ZoneSync.Json.Basic
import ZoneSync.Propagation.Verifier
import ZoneSync.Text.Blank
import ZoneSync.Text.Quoted

namespace ZoneSync

/-!
# Configurations

* `ZoneRef` — how a zone is given;
* `ProviderConfig` — the service that holds the zone;
* `VerifierConfig` — the resolvers that are asked for its records;
* `SyncConfig` — both, with the document.

Each configuration has a `check`, the first fault that keeps it from being used, and a `describe`,
its text on one line in which secrets do not appear.
-/

/-! ### Providers -/

/-- The service that holds the zone. -/
inductive ProviderConfig where
  /-- Cloudflare, with the zone given by its identifier or by its name. -/
  | cloudflare (token : String) (zoneId zoneName apiBase : Option String)
  /-- A service that is registered under a name, with settings of its own. -/
  | custom (factory : String) (settings : Json)
  deriving Repr

/-- Where a zone is found: under its identifier, or under its name. -/
inductive ZoneRef where
  /-- The identifier; the name, if there is one, is not needed. -/
  | byId (id : String) (name : Option String)
  | byName (name : String)
  deriving DecidableEq, Repr

namespace ZoneRef

/-- The place of a zone with an optional identifier and an optional name. Empty texts are none. -/
def of? (id name : Option String) : Option ZoneRef :=
  match Text.nonempty id, Text.nonempty name with
  | some id, name => some (byId id name)
  | none, some name => some (byName name)
  | none, none => none

/-- The identifier, if it is known. -/
def id? : ZoneRef → Option String
  | byId id _ => some id
  | byName _ => none

/-- The name, if it is known. -/
def name? : ZoneRef → Option String
  | byId _ name => name
  | byName name => some name

end ZoneRef

/-- What stands in place of a secret. -/
def redacted : String := Text.quote "<REDACTED>"

/-- The error of a token that is empty. -/
def tokenMissing : Error := .config "Cloudflare API token cannot be empty"

/-- The error of a zone that is given neither by its identifier nor by its name. -/
def zoneMissing : Error := .config "Cloudflare zone ID or zone name is required"

namespace ProviderConfig

/-- The name under which the service is registered. -/
def typeName : ProviderConfig → String
  | cloudflare _ _ _ _ => "cloudflare"
  | custom factory _ => factory

/-- The first fault of a configuration. -/
def check : ProviderConfig → Except Error Unit
  | cloudflare token zoneId zoneName _ =>
    if token = "" then .error tokenMissing
    else if (ZoneRef.of? zoneId zoneName).isNone then .error zoneMissing
    else .ok ()
  | custom factory settings =>
    if factory = "" then .error (.config "Custom provider factory cannot be empty")
    else
      match settings with
      | .null => .error (.config "Custom provider config cannot be null")
      | _ => .ok ()

/-- The text of a configuration, without the token and without the settings. -/
def describe : ProviderConfig → String
  | cloudflare _ zoneId zoneName apiBase =>
    "Cloudflare \x7b api_token: " ++ redacted ++ ", zone_id: " ++ Text.quoteOption zoneId ++
      ", zone_name: " ++ Text.quoteOption zoneName ++ ", api_base: " ++ Text.quoteOption apiBase ++
      " \x7d"
  | custom factory _ =>
    "Custom \x7b factory: " ++ Text.quote factory ++ ", config: " ++ redacted ++ " \x7d"

end ProviderConfig

/-! ### Verifiers -/

/-- The resolvers that are used if nothing else is set. -/
def defaultResolvers : List Ip :=
  [.v4 ⟨#v[1, 1, 1, 1]⟩, .v4 ⟨#v[8, 8, 8, 8]⟩, .v4 ⟨#v[9, 9, 9, 9]⟩]

/-- How the propagation of records is verified. -/
structure VerifierConfig where
  resolvers : List Ip := defaultResolvers
  /-- The pause between two lookups, in milliseconds. -/
  lookupDelay : UInt64 := .ofNat defaultDelay
  /-- The longest time of a lookup, in seconds. -/
  timeout : UInt64 := 5
  deriving DecidableEq, Repr

namespace VerifierConfig

/-- The number of different resolvers. -/
def distinctResolvers (c : VerifierConfig) : Nat := c.resolvers.eraseDups.length

/-- The longest time of a lookup, in milliseconds. -/
def timeoutMillis (c : VerifierConfig) : Nat := c.timeout.toNat * 1000

/-- The first fault of a configuration. -/
def check (c : VerifierConfig) : Except Error Unit :=
  if c.distinctResolvers < minResolvers then
    .error (.config ("At least " ++ Nat.repr minResolvers ++
      " distinct resolvers are required, got " ++ Nat.repr c.distinctResolvers))
  else if c.timeout = 0 then .error (.config "Resolver timeout must be > 0")
  else .ok ()

/-- The text of a configuration. -/
def describe (c : VerifierConfig) : String :=
  "VerifierConfig \x7b resolvers: [" ++ ", ".intercalate (c.resolvers.map Ip.toString) ++
    "], lookup_delay_ms: " ++ Nat.repr c.lookupDelay.toNat ++ ", timeout_secs: " ++
    Nat.repr c.timeout.toNat ++ " \x7d"

end VerifierConfig

/-! ### Runs -/

/-- The file of the document if nothing else is set. -/
def defaultRecordsFile : String := "dns/records.yaml"

/-- What a run needs to know. -/
structure SyncConfig where
  recordsFile : String := defaultRecordsFile
  provider : ProviderConfig
  verifier : VerifierConfig := {}
  /-- Compute the changes without making them. -/
  dryRun : Bool := false
  deriving Repr

namespace SyncConfig

/-- The first fault of a configuration. -/
def check (c : SyncConfig) : Except Error Unit := do
  if c.recordsFile = "" then throw (.config "Records file path cannot be empty")
  c.provider.check
  c.verifier.check

/-- The text of a configuration. -/
def describe (c : SyncConfig) : String :=
  "SyncConfig \x7b records_file: " ++ Text.quote c.recordsFile ++ ", provider: " ++
    c.provider.describe ++ ", verifier: " ++ c.verifier.describe ++ ", dry_run: " ++
    (if c.dryRun then "true" else "false") ++ " \x7d"

end SyncConfig

end ZoneSync

import ZoneSync.Config.Basic
import ZoneSync.Json.Decode
import ZoneSync.Json.Reader

namespace ZoneSync

/-!
# Configurations as JSON

Every configuration is an object with its fields, or the array of their values. A provider has its
type among its fields, or in front of the array.

* `ProviderConfig.ofJson?`, `VerifierConfig.ofJson?`, `SyncConfig.ofJson?` — read a configuration;
* `ProviderConfig.toJson`, `VerifierConfig.toJson`, `SyncConfig.toJson` — write it.
-/

/-! ### Reading -/

namespace ProviderConfig

/-- The fields of a Cloudflare configuration without its type. -/
def cloudflareOfJson? (j : Json) : Option ProviderConfig := do
  let fields ← j.fieldsOf? ["api_token", "zone_id", "zone_name", "api_base"]
  let optionalText (key : String) := fields.orElse? key none (Json.nullable? Json.text?)
  return .cloudflare (← fields.required? "api_token" Json.text?) (← optionalText "zone_id")
    (← optionalText "zone_name") (← optionalText "api_base")

/-- The fields of a custom configuration without its type. -/
def customOfJson? (j : Json) : Option ProviderConfig := do
  let fields ← j.fieldsOf? ["factory", "config"]
  return .custom (← fields.required? "factory" Json.text?) (← fields.required? "config" some)

/-- The type of a configuration, and the fields that are left. -/
def splitType? : Json → Option (String × Json)
  | .object fields =>
    match fields.filter (·.1 = some "type") with
    | [(_, .string (some type))] => some (type, .object (fields.filter (·.1 ≠ some "type")))
    | _ => none
  | .array (.string (some type) :: items) => some (type, .array items)
  | _ => none

/-- The configuration that a document holds. The whole of it is kept until its type is known, with
    at most `room` levels of nesting. -/
def ofJson? (room : Nat) (j : Json) : Option ProviderConfig :=
  if j.isStorable room then
    match splitType? j with
    | some ("cloudflare", fields) => cloudflareOfJson? fields
    | some ("custom", fields) => customOfJson? fields
    | _ => none
  else none

/-- The configuration that a text holds. -/
def ofText? (s : String) : Option ProviderConfig :=
  (Json.read? s).bind (ofJson? Json.maxNesting)

end ProviderConfig

namespace VerifierConfig

/-- The address that a string writes. -/
def ipOfJson? (j : Json) : Option Ip := j.text?.bind Ip.parse?

/-- The configuration that a document holds. -/
def ofJson? (j : Json) : Option VerifierConfig := do
  let fields ← j.fieldsOf? ["resolvers", "lookup_delay_ms", "timeout_secs"]
  let defaults : VerifierConfig := {}
  return {
    resolvers := ← fields.orElse? "resolvers" defaults.resolvers (Json.listOf? ipOfJson?)
    lookupDelay := ← fields.orElse? "lookup_delay_ms" defaults.lookupDelay Json.uint64?
    timeout := ← fields.orElse? "timeout_secs" defaults.timeout Json.uint64? }

/-- The configuration that a text holds. -/
def ofText? (s : String) : Option VerifierConfig :=
  (Json.read? s).bind ofJson?

end VerifierConfig

namespace SyncConfig

/-- The configuration that a document holds. -/
def ofJson? (j : Json) : Option SyncConfig := do
  let fields ← j.fieldsOf? ["records_file", "provider", "verifier", "dry_run"]
  return {
    recordsFile := ← fields.orElse? "records_file" defaultRecordsFile Json.text?
    provider := ← fields.required? "provider" (ProviderConfig.ofJson? (Json.maxNesting - 1))
    verifier := ← fields.orElse? "verifier" {} VerifierConfig.ofJson?
    dryRun := ← fields.orElse? "dry_run" false Json.bool? }

/-- The configuration that a text holds. -/
def ofText? (s : String) : Option SyncConfig :=
  (Json.read? s).bind ofJson?

end SyncConfig

/-! ### Writing -/

/-- The JSON of a provider configuration; what is not set is null. -/
def ProviderConfig.toJson : ProviderConfig → Json
  | cloudflare token zoneId zoneName apiBase =>
    .ofFields [
      ("type", .ofText "cloudflare"),
      ("api_token", .ofText token),
      ("zone_id", .ofOption .ofText zoneId),
      ("zone_name", .ofOption .ofText zoneName),
      ("api_base", .ofOption .ofText apiBase)]
  | custom factory settings =>
    .ofFields [("type", .ofText "custom"), ("factory", .ofText factory), ("config", settings)]

/-- The JSON of a verifier configuration. -/
def VerifierConfig.toJson (c : VerifierConfig) : Json :=
  .ofFields [
    ("resolvers", .array (c.resolvers.map fun a => .ofText a.toString)),
    ("lookup_delay_ms", .ofNat c.lookupDelay.toNat),
    ("timeout_secs", .ofNat c.timeout.toNat)]

/-- The JSON of a configuration. -/
def SyncConfig.toJson (c : SyncConfig) : Json :=
  .ofFields [
    ("records_file", .ofText c.recordsFile),
    ("provider", c.provider.toJson),
    ("verifier", c.verifier.toJson),
    ("dry_run", .bool c.dryRun)]

end ZoneSync

import ZoneSync.Config.Basic
import ZoneSync.Text.Digits

namespace ZoneSync

/-!
# Settings from variables

What is not in the document and not on the command line comes from the environment, given here as a
function from the names of variables to their values.

* `LogLevel` — how much is logged;
* `Settings.provider`, `Settings.verifier`, `Settings.sync` — configurations from variables;
* `Variables.trimmed` — variables of which blanks around the values do not count.

An error is a text, with what was tried in front of what went wrong.
-/

/-! ### Log levels -/

/-- How much is logged. -/
inductive LogLevel where
  | trace
  | debug
  | info
  | warn
  | error
  deriving DecidableEq, Repr

namespace LogLevel

/-- All levels, the most talkative first. -/
def all : List LogLevel := [trace, debug, info, warn, error]

/-- The name of a level. -/
def name : LogLevel → String
  | trace => "trace"
  | debug => "debug"
  | info => "info"
  | warn => "warn"
  | error => "error"

/-- The level with a name; case does not matter. -/
def ofName (s : String) : Except String LogLevel :=
  match all.find? (·.name = Text.lowerAscii s) with
  | some level => .ok level
  | none =>
    .error ("log level '" ++ s ++ "' is not valid. Valid levels: " ++
      ", ".intercalate (all.map name))

end LogLevel

/-! ### Variables -/

/-- The values of variables. -/
abbrev Variables := String → Option String

/-- The variables without the blanks around their values; a blank one is not set. -/
def Variables.trimmed (env : Variables) : Variables :=
  fun name => Text.nonempty ((env name).map Text.trim)

namespace Settings

/-- The token of the provider. -/
def tokenVariable : String := "CLOUDFLARE_API_TOKEN"

/-- The identifier of the zone; without it the zone is found by the domain of the document. -/
def zoneVariable : String := "CLOUDFLARE_ZONE_ID"

/-- Where the requests to the provider go. -/
def baseVariable : String := "CLOUDFLARE_API_BASE"

/-- The addresses of the resolvers, between commas. -/
def resolversVariable : String := "DNSYNC_RESOLVERS"

/-- The pause between lookups, in milliseconds. -/
def delayVariable : String := "DNSYNC_LOOKUP_DELAY_MS"

/-- The longest time of a lookup, in seconds. -/
def timeoutVariable : String := "DNSYNC_RESOLVER_TIMEOUT_SECS"

/-- The mode; the value `dry-run` asks for a dry run. -/
def modeVariable : String := "DNSYNC_MODE"

/-- The names of all variables that configurations come from. -/
def variableNames : List String :=
  [tokenVariable, zoneVariable, baseVariable, resolversVariable, delayVariable, timeoutVariable,
    modeVariable]

/-- The error of a step, with what was tried in front. -/
def within {α : Type} (context : String) : Except String α → Except String α :=
  Except.mapError fun cause => context ++ ": " ++ cause

/-- Whether the mode asks for a dry run; case does not matter. -/
def dryRunRequested (env : Variables) : Bool :=
  match env modeVariable with
  | some mode => Text.lowerAscii mode = "dry-run"
  | none => false

/-- The configuration of the provider for the domain of a document. -/
def provider (env : Variables) (domain : String) : Except String ProviderConfig := do
  let some token := env tokenVariable
    | throw (tokenVariable ++ " is required. Set it via: export " ++ tokenVariable ++ "=your_token")
  let zoneId := env zoneVariable
  let zoneName := if zoneId.isSome then none else some domain
  let config : ProviderConfig := .cloudflare token zoneId zoneName (env baseVariable)
  within "invalid provider configuration" (config.check.mapError Error.message)
  return config

/-- The address of a resolver. -/
def resolver (entry : String) : Except String Ip :=
  match Ip.parse? entry with
  | some a => .ok a
  | none =>
    within (resolversVariable ++ " entry '" ++ entry ++ "' is not an IP address")
      (.error Ip.syntaxMessage)

/-- The addresses between commas; blank entries do not count. -/
def resolvers (value : String) : Except String (List Ip) :=
  let entries := (Text.splitOn ',' value.toList).map fun piece => Text.trim (String.ofList piece)
  (entries.filter (· ≠ "")).mapM resolver

/-- The number of 64 bits in a variable, or a default if it is not set. -/
def number (env : Variables) (name unit : String) (default : UInt64) : Except String UInt64 :=
  match env name with
  | none => .ok default
  | some value =>
    within (name ++ " must be a number of " ++ unit)
      (((Text.readBounded 0xFFFFFFFFFFFFFFFF value).map UInt64.ofNat).mapError
        Text.NumberError.message)

/-- The configuration of the verifier. -/
def verifier (env : Variables) : Except String VerifierConfig := do
  let defaults : VerifierConfig := {}
  let resolvers ←
    match env resolversVariable with
    | some value => resolvers value
    | none => .ok defaults.resolvers
  let lookupDelay ← number env delayVariable "milliseconds" defaults.lookupDelay
  let timeout ← number env timeoutVariable "seconds" defaults.timeout
  let config : VerifierConfig := { resolvers, lookupDelay, timeout }
  within "invalid verifier configuration" (config.check.mapError Error.message)
  return config

/-- The configuration of a run on the zone. The variables of the verifier play no part in it. -/
def sync (env : Variables) (recordsFile domain : String) (dryRun : Bool) :
    Except String SyncConfig := do
  let config : SyncConfig := {
    recordsFile
    provider := ← provider env domain
    dryRun := dryRun || dryRunRequested env }
  config.check.mapError Error.message
  return config

end Settings

end ZoneSync

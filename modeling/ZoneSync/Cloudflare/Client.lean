import ZoneSync.Cloudflare.Answer
import ZoneSync.Cloudflare.Payload
import ZoneSync.Config.Registry
import ZoneSync.Provider

namespace ZoneSync.Cloudflare

open Http

/-!
# The client

* `Client` — the zone and how to reach it; in a dry run nothing is changed;
* `Client.of`, `Client.ofConfig` — the client for a zone, and for a configuration;
* `Session` — what a client finds out and keeps while it is used;
* `Client.list`, `Client.create`, `Client.update`, `Client.delete` — the requests;
* `Client.provider` — the client as a provider.

Without an identifier for the zone, the zone is looked up by its name before the first request that
needs it, and only a successful lookup is kept.
-/

/-! ### Clients -/

/-- Where requests go if nothing else is set. -/
def defaultBase : String := "https://api.cloudflare.com/client/v4"

/-- The number of records on a page. -/
def pageSize : Nat := 100

/-- A client for a zone. -/
structure Client where
  token : String
  place : ZoneRef
  base : String := defaultBase
  dryRun : Bool
  deriving DecidableEq, Repr

namespace Client

/-- The client for a zone, given by its identifier or by its name. -/
def of (token : String) (zoneId zoneName : Option String) (dryRun : Bool) :
    Except Error Client :=
  if token = "" then .error tokenMissing
  else
    match ZoneRef.of? zoneId zoneName with
    | some place => .ok { token, place, dryRun }
    | none => .error zoneMissing

/-- The client with another base, of which the slashes at the end do not count. -/
def withBase (c : Client) (base : String) : Client :=
  { c with base := String.ofList (Text.stripEnd (· = '/') base.toList) }

/-- The client for a configuration. -/
def ofConfig (dryRun : Bool) : Factory Client
  | .cloudflare token zoneId zoneName apiBase => do
    if token = "" then throw (.config "Cloudflare API token is required")
    let c ← of token zoneId zoneName dryRun
    return (apiBase.map c.withBase).getD c
  | .custom _ _ => .error (.config "Invalid config for Cloudflare provider")

/-- The text of a client on one line, without the token. -/
def describe (c : Client) : String :=
  "CloudflareProvider \x7b api_token: " ++ redacted ++ ", zone_id: " ++
    Text.quoteOption c.place.id? ++ ", zone_name: " ++ Text.quoteOption c.place.name? ++
    ", api_base: " ++ Text.quote c.base ++ ", dry_run: " ++
    (if c.dryRun then "true" else "false") ++ " \x7d"

/-! ### Addresses -/

/-- The address of the zones. -/
def zonesUrl (c : Client) : String := c.base ++ "/zones"

/-- The address of the records of a zone. -/
def recordsUrl (c : Client) (zone : String) : String :=
  c.zonesUrl ++ "/" ++ zone ++ "/dns_records"

/-- The address of a record. -/
def recordUrl (c : Client) (zone id : String) : String :=
  c.recordsUrl zone ++ "/" ++ id

end Client

/-! ### Sessions -/

/-- What a client keeps while it is used. -/
structure Session where
  /-- The zone that was found by its name. -/
  zone : Option String := none
  /-- The number of the next identifier in a dry run. -/
  nextId : Nat := 0
  deriving DecidableEq, Repr

/-- The identifier with a number in a dry run. -/
def dryRunId (n : Nat) : String := "dry-run-" ++ Nat.repr n

namespace Client

variable {m : Type → Type} [Monad m]

/-- An action of a session that can fail. -/
abbrev Action (m : Type → Type) := ExceptT Error (StateT Session m)

/-- An action of a session that leaves the session alone. -/
def Action.ofExchange {α : Type} (x : ExceptT Error m α) : Action m α :=
  ExceptT.mk (StateT.lift x.run)

/-- Send a request and take the answer. -/
def request (c : Client) (send : Transport m) {α : Type} (result? : Json → Option α)
    (subject : String) (method : Method) (address : String)
    (query : List (String × String) := []) (body : Option Json := none) :
    ExceptT Error m (Envelope α) :=
  ask send result? subject (Request.of method address query c.token body)

/-! ### The zone -/

/-- The identifier of the zone with a name. -/
def findZone (c : Client) (send : Transport m) (name : String) : ExceptT Error m String := do
  let e ← c.request send (Json.listOf? identifier?) ("zone " ++ name) .get c.zonesUrl
    [("name", name)]
  match e.result.getD [] with
  | zone :: _ => return zone
  | [] => throw (.notFound ("Zone not found: " ++ name))

/-- The identifier of the zone: the one that is set, the one that was found before, or the one that
    is found now. -/
def zone (c : Client) (send : Transport m) : Action m String := do
  match c.place, (← get).zone with
  | .byId id _, _ => return id
  | .byName _, some id => return id
  | .byName name, none =>
    let id ← Action.ofExchange (c.findZone send name)
    modify fun s => { s with zone := some id }
    return id

/-! ### Records -/

/-- The records of a page, and the number of pages. A missing result is an empty page, and without
    word of pages there is one. -/
def page (c : Client) (send : Transport m) (zone : String) (n : Nat) :
    ExceptT Error m (List LiveRecord × UInt32) := do
  let e ← c.request send (Json.listOf? Entry.ofJson?) ("DNS records page " ++ Nat.repr n) .get
    (c.recordsUrl zone) [("page", Nat.repr n), ("per_page", Nat.repr pageSize)]
  return ((e.result.getD []).map Entry.toLive, e.totalPages.getD 1)

/-- The records of page `n` and of the pages after it. A page announces fewer than `2 ^ 32` pages,
    so there is a last one. -/
def pagesFrom (c : Client) (send : Transport m) (zone : String) (n : Nat) :
    ExceptT Error m (List LiveRecord) := do
  let (records, total) ← c.page send zone n
  if _h : n < total.toNat then
    return records ++ (← c.pagesFrom send zone (n + 1))
  else return records
termination_by UInt32.size - n
decreasing_by
  have := total.toNat_lt_size
  omega

/-- All records of the zone. -/
def list (c : Client) (send : Transport m) : Action m (List LiveRecord) := do
  let zone ← c.zone send
  Action.ofExchange (c.pagesFrom send zone 1)

/-- Add a record; the answer is its identifier. -/
def create (c : Client) (send : Transport m) (r : Record) : Action m String := do
  let zone ← c.zone send
  if c.dryRun then
    let n := (← get).nextId
    modify fun s => { s with nextId := n + 1 }
    return dryRunId n
  else
    let e ← Action.ofExchange (c.request send identifier? ("record " ++ r.name) .post
      (c.recordsUrl zone) [] (some (Payload.ofRecord r).toJson))
    match e.result with
    | some id => return id
    | none => throw (refusal "Invalid response format: missing result")

/-- Replace a record. -/
def update (c : Client) (send : Transport m) (id : String) (r : Record) : Action m Unit := do
  let zone ← c.zone send
  if !c.dryRun then
    let _ ← Action.ofExchange (c.request send (document? 1) ("record " ++ r.name) .put
      (c.recordUrl zone id) [] (some (Payload.ofRecord r).toJson))

/-- Remove a record. -/
def delete (c : Client) (send : Transport m) (id : String) : Action m Unit := do
  let zone ← c.zone send
  if !c.dryRun then
    let _ ← Action.ofExchange (c.request send (document? 1) ("record " ++ id) .delete
      (c.recordUrl zone id))

/-- A client as a provider. -/
def provider (c : Client) (send : Transport m) : Provider (StateT Session m) where
  name := providerName
  list := (c.list send).run
  create := fun r => (c.create send r).run
  update := fun id r => (c.update send id r).run
  delete := fun id => (c.delete send id).run

end Client

/-! ### Registration -/

/-- The registry with the client under the name of its configurations. -/
def register (dryRun : Bool) (r : Registry Client) : Registry Client :=
  r.register providerName (Client.ofConfig dryRun)

end ZoneSync.Cloudflare

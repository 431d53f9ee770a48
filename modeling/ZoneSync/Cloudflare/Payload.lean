import ZoneSync.Json.Basic
import ZoneSync.Record.Basic

namespace ZoneSync.Cloudflare

/-!
# What is sent for a record

* `Payload` — the body of a request that creates or replaces a record;
* `Payload.ofRecord` — the body for a record: its own choice of time to live is the number 1,
  service data stands in place of content, the proxy setting goes with the types that can be
  proxied and the priority with mail records;
* `Payload.toJson` — its JSON, in which absent fields are left out.
-/

/-- The body of a request that creates or replaces a record. -/
structure Payload where
  type : String
  name : String
  content : Option String
  ttl : UInt32
  proxied : Option Bool
  comment : Option String
  priority : Option UInt16
  data : Option Service
  deriving DecidableEq, Repr

namespace Payload

/-- The body for a record. -/
def ofRecord (r : Record) : Payload where
  type := r.type.name
  name := r.name
  content := r.content?
  ttl := r.ttl.toWire
  proxied := if r.type.isProxiable then some r.effectiveProxied else none
  comment := r.comment
  priority := if r.type = .mx then r.priority else none
  data :=
    match r.value with
    | .content _ => none
    | .service data => some data

/-- The JSON of service data. -/
def serviceJson (d : Service) : Json :=
  .ofFields [
    ("priority", .ofNat d.priority.toNat),
    ("weight", .ofNat d.weight.toNat),
    ("port", .ofNat d.port.toNat),
    ("target", .ofText d.target)]

/-- The entry of an optional field, if it is there. -/
def optional {α : Type} (key : String) (toJson : α → Json) (value : Option α) :
    List (String × Json) :=
  match value with
  | some x => [(key, toJson x)]
  | none => []

/-- The JSON of a body. -/
def toJson (p : Payload) : Json :=
  .ofFields (
    [("type", .ofText p.type), ("name", .ofText p.name)] ++
    optional "content" .ofText p.content ++
    [("ttl", .ofNat p.ttl.toNat)] ++
    optional "proxied" .bool p.proxied ++
    optional "comment" .ofText p.comment ++
    optional "priority" (fun n => .ofNat n.toNat) p.priority ++
    optional "data" serviceJson p.data)

end Payload

end ZoneSync.Cloudflare

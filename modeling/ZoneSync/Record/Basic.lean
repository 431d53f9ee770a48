import ZoneSync.Name
import ZoneSync.Record.Type

namespace ZoneSync

/-!
# Records

One record, declared or found in a zone. A declared record has a name relative to its domain, one
that was found has its full name.

* `Ttl` — how long an answer may be kept; the provider writes its own choice as the number 1;
* `Service`, `RecordValue` — what a record says: the data of a service, or flat content;
* `Record`, `LiveRecord` — a record, and one with the identifier its provider gave it;
* `Record.effectiveProxied` — the proxy setting as the provider applies it;
* `Record.qualified` — a declared record under its full name.
-/

/-! ### Time to live -/

/-- The time that an answer may be kept. -/
inductive Ttl where
  /-- The provider chooses. -/
  | auto
  | seconds (n : UInt32)
  deriving DecidableEq, Repr

namespace Ttl

/-- The number that the provider reads as its own choice. -/
def autoWire : UInt32 := 1

/-- The smallest number of seconds that may be declared. -/
def minSeconds : Nat := 60

/-- The number that is sent to the provider. -/
def toWire : Ttl → UInt32
  | auto => autoWire
  | seconds n => n

/-- The time that a number of the provider stands for. -/
def ofWire (n : UInt32) : Ttl :=
  if n = autoWire then auto else seconds n

/-- A number of the provider is sent back as it came. -/
@[simp] theorem toWire_ofWire (n : UInt32) : (ofWire n).toWire = n := by
  unfold ofWire
  split
  · next h => exact h.symm
  · rfl

/-- The text of a time to live. -/
def toString : Ttl → String
  | auto => "auto"
  | seconds n => Nat.repr n.toNat

instance : ToString Ttl := ⟨toString⟩

end Ttl

/-! ### Values -/

/-- The data of a service record. -/
structure Service where
  priority : UInt16
  weight : UInt16
  port : UInt16
  target : String
  deriving DecidableEq, Repr

/-- The text of service data: its numbers, then the target. -/
def Service.toString (d : Service) : String :=
  Nat.repr d.priority.toNat ++ " " ++ Nat.repr d.weight.toNat ++ " " ++ Nat.repr d.port.toNat ++
    " " ++ d.target

instance : ToString Service := ⟨Service.toString⟩

/-- What a record says. -/
inductive RecordValue where
  /-- An address, a host name or free text. -/
  | content (text : String)
  | service (data : Service)
  deriving DecidableEq, Repr

/-- The text of a value. -/
def RecordValue.toString : RecordValue → String
  | content text => text
  | service data => data.toString

instance : ToString RecordValue := ⟨RecordValue.toString⟩

/-! ### Records -/

/-- A DNS record. -/
structure Record where
  /-- Relative to the domain for a declared record, the full name for one that was found. -/
  name : String
  type : RecordType
  value : RecordValue
  ttl : Ttl := .auto
  /-- Whether the provider's proxy answers; nothing leaves it to the provider. -/
  proxied : Option Bool := none
  comment : Option String := none
  /-- The preference of a mail record. -/
  priority : Option UInt16 := none
  deriving DecidableEq, Repr

namespace Record

/-- The flat content of a record, unless it holds service data. -/
def content? (r : Record) : Option String :=
  match r.value with
  | .content text => some text
  | .service _ => none

/-- Whether a record holds service data. -/
def hasService (r : Record) : Bool :=
  r.content?.isNone

/-- The proxy setting as the provider applies it: on by default for the types that can be proxied,
    off for the others. -/
def effectiveProxied (r : Record) : Bool :=
  r.type.isProxiable && r.proxied.getD true

/-- The record under its full name. -/
def qualified (r : Record) (domain : String) : Record :=
  { r with name := Name.qualify r.name domain }

@[simp] theorem name_qualified (r : Record) (domain : String) :
    (r.qualified domain).name = Name.qualify r.name domain := rfl

@[simp] theorem type_qualified (r : Record) (domain : String) :
    (r.qualified domain).type = r.type := rfl

@[simp] theorem effectiveProxied_qualified (r : Record) (domain : String) :
    (r.qualified domain).effectiveProxied = r.effectiveProxied := rfl

end Record

/-- A record of a zone, with the identifier of its provider. -/
structure LiveRecord where
  id : String
  record : Record
  deriving DecidableEq, Repr

end ZoneSync

namespace ZoneSync

/-!
# Record types

Seven types may be declared. A zone may hold records of any type; the ones that are not declared are
kept by their name.

* `RecordType.ofName` and `RecordType.name` — the type of a name and the name of a type;
* `isManaged`, `isProxiable`, `isPreserved` — which types may be declared, which ones the provider
  can put its proxy in front of, and which ones are never deleted;
* an order: the declared order of the named types, then the others by name.
-/

/-- The type of a DNS record. -/
inductive RecordType where
  | a
  | aaaa
  | cname
  | mx
  | txt
  | srv
  | ns
  | caa
  /-- A type that is known by its name only. -/
  | other (name : String)
  deriving DecidableEq, Repr

namespace RecordType

/-- The name of a type in zone data. -/
def name : RecordType → String
  | a => "A"
  | aaaa => "AAAA"
  | cname => "CNAME"
  | mx => "MX"
  | txt => "TXT"
  | srv => "SRV"
  | ns => "NS"
  | caa => "CAA"
  | other name => name

/-- The type of a name; case matters. -/
def ofName : String → RecordType
  | "A" => a
  | "AAAA" => aaaa
  | "CNAME" => cname
  | "MX" => mx
  | "TXT" => txt
  | "SRV" => srv
  | "NS" => ns
  | "CAA" => caa
  | name => other name

/-- A type is named as it was read. -/
@[simp] theorem name_ofName (s : String) : (ofName s).name = s := by
  unfold ofName
  split <;> rfl

/-- Whether records of the type may be declared. -/
def isManaged : RecordType → Bool
  | a | aaaa | cname | mx | txt | srv | ns => true
  | caa | other _ => false

/-- Whether the provider can proxy records of the type. -/
def isProxiable : RecordType → Bool
  | a | aaaa | cname => true
  | _ => false

/-- Whether undeclared records of the type are kept: mail and verification records are often
    managed elsewhere. -/
def isPreserved : RecordType → Bool
  | mx | txt | caa => true
  | _ => false

/-- Whether the content of the type is a host name. -/
def hasHostContent : RecordType → Bool
  | cname | mx | ns => true
  | _ => false

/-- Whether a type has no constructor of its own. -/
def isOther : RecordType → Bool
  | other _ => true
  | _ => false

instance : ToString RecordType := ⟨name⟩

/-- The place of a type in the order of types. -/
def rank : RecordType → Nat
  | a => 0
  | aaaa => 1
  | cname => 2
  | mx => 3
  | txt => 4
  | srv => 5
  | ns => 6
  | caa => 7
  | other _ => 8

/-- By rank; two types of one rank by name. -/
instance : Ord RecordType where
  compare x y := (compare x.rank y.rank).then (compare x.name y.name)

end RecordType

end ZoneSync

import ZoneSync.Address.Ip
import ZoneSync.Document.Entry
import ZoneSync.Record.Basic
import ZoneSync.Yaml.Writer

namespace ZoneSync

open Yaml

/-!
# The grammar of records

Every field of an entry is checked on its own, whatever is wrong with the others, so that all faults
of an entry are found at once.

* `EntryFault` — what can be wrong with an entry, and its wording;
* `isDomainText`, `isHostText`, `isServiceName`, `isRecordName` — the forms of names;
* `Checked` — the value of a part of an entry with the faults found in it;
* `Entry.parse` — the record of an entry, or all of its faults.
-/

/-! ### Faults -/

/-- What can be wrong with an entry. -/
inductive EntryFault where
  | missingField (field : String)
  | wrongKind (field expected : String)
  | unsupportedType (type : String)
  | invalidName (name : String)
  /-- The full name is too long. -/
  | nameTooLong (name : String)
  | invalidIpv4 (content : String)
  | invalidIpv6 (content : String)
  | invalidTarget (content : String)
  /-- An alias at the apex only works behind the proxy. -/
  | apexAliasWithoutProxy
  | invalidPriority (value : String)
  | missingServiceField (field : String)
  | invalidServiceField (field value : String)
  | invalidServiceName (name : String)
  | proxyNotSupported (type : RecordType)
  | invalidTtl (value : String)
  deriving DecidableEq, Repr

/-- The wording of a fault. -/
def EntryFault.message : EntryFault → String
  | missingField field => "Missing '" ++ field ++ "' field"
  | wrongKind field expected => "'" ++ field ++ "' must be " ++ expected
  | unsupportedType type => "Invalid record type: " ++ type
  | invalidName name => "Invalid record name: " ++ name
  | nameTooLong name => "Fully-qualified name exceeds 253 characters: " ++ name
  | invalidIpv4 content => "Invalid IPv4 address: " ++ content
  | invalidIpv6 content => "Invalid IPv6 address: " ++ content
  | invalidTarget content => "Invalid CNAME target: " ++ content
  | apexAliasWithoutProxy => "CNAME at root (@) requires the provider proxy"
  | invalidPriority value => "Invalid MX priority: " ++ value
  | missingServiceField field => "SRV record missing '" ++ field ++ "'"
  | invalidServiceField field value => "Invalid SRV " ++ field ++ ": " ++ value
  | invalidServiceName name => "Invalid SRV name format: " ++ name
  | proxyNotSupported type => type.name ++ " records cannot be proxied"
  | invalidTtl value => "Invalid TTL: " ++ value ++ " (must be >= 60 or 'auto')"

/-! ### Names -/

/-- The letters of ASCII. -/
def isLetter (c : Char) : Bool := c.isAlpha

/-- The characters of host names: letters, digits, dots and hyphens. -/
def isHostChar (c : Char) : Bool := c.isAlphanum || c = '.' || c = '-'

/-- The characters of labels: letters, digits, underscores and hyphens. -/
def isLabelChar (c : Char) : Bool := c.isAlphanum || c = '_' || c = '-'

/-- Whether a text is a domain: host characters, a dot, and at least two letters. -/
def isDomainText (s : String) : Bool :=
  let cs := s.toList.reverse
  2 ≤ (cs.takeWhile isLetter).length &&
    match cs.dropWhile isLetter with
    | '.' :: before => !before.isEmpty && before.all isHostChar
    | _ => false

/-- Whether a text is made of host characters. -/
def isHostText (s : String) : Bool :=
  !s.toList.isEmpty && s.toList.all isHostChar

/-- Whether a list of characters is an underscore and lower case letters. -/
def isServiceLabel : List Char → Bool
  | '_' :: letters => !letters.isEmpty && letters.all Char.isLower
  | _ => false

/-- Whether a text is the name of a service and its protocol. -/
def isServiceName (s : String) : Bool :=
  match Text.splitOn '.' s.toList with
  | [service, protocol] => isServiceLabel service && isServiceLabel protocol
  | _ => false

/-- Whether a list of characters is a label: an asterisk, or 1 to 63 label characters without a
    hyphen at either end. -/
def isLabel (cs : List Char) : Bool :=
  cs = ['*'] ||
    (!cs.isEmpty && cs.length ≤ 63 && cs.all isLabelChar &&
      cs.head? ≠ some '-' && cs.getLast? ≠ some '-')

/-- Whether a text is a relative name: the apex, or labels between dots. -/
def isRecordName (s : String) : Bool :=
  s = Name.apex || (Text.splitOn '.' s.toList).all isLabel

/-- The octets that a full name may have. -/
def maxNameSize : Nat := 253

/-! ### Parts -/

/-- The value of a part of an entry, if it has a good one, with the faults found in it. -/
structure Checked (α : Type) where
  value : Option α
  faults : List EntryFault := []

namespace Checked

/-- A good value. -/
def ok {α : Type} (x : α) : Checked α := ⟨some x, []⟩

/-- No value for a reason. -/
def fault {α : Type} (f : EntryFault) : Checked α := ⟨none, [f]⟩

/-- A good value, or else a fault. -/
def ofOption {α : Type} (f : EntryFault) : Option α → Checked α
  | some x => ok x
  | none => fault f

/-- The value under a further condition, which has a fault of its own. -/
def guard {α : Type} (c : Checked α) (p : α → Bool) (f : α → EntryFault) : Checked α :=
  match c.value with
  | some x => if p x then c else ⟨none, c.faults ++ [f x]⟩
  | none => c

/-- A function of the value. -/
def map {α β : Type} (g : α → β) (c : Checked α) : Checked β := ⟨c.value.map g, c.faults⟩

/-- Further faults behind those found. -/
def andAlso {α : Type} (c : Checked α) (faults : List EntryFault) : Checked α :=
  ⟨c.value, c.faults ++ faults⟩

end Checked

/-- The text of a value that is a string or a number. -/
def scalarText? : Value → Option String
  | .string s => some s
  | .number n => some n.toText
  | _ => none

/-- A string that has to be there. -/
def requiredString (field : String) : Option Value → Checked String
  | none => .fault (.missingField field)
  | some (.string s) => .ok s
  | some _ => .fault (.wrongKind field "a string")

/-- A string or a number, as text, that has to be there. -/
def requiredText (field : String) : Option Value → Checked String
  | none => .fault (.missingField field)
  | some v => .ofOption (.wrongKind field "a string") (scalarText? v)

/-- A string that may be left out. -/
def optionalString (field : String) : Option Value → Checked (Option String)
  | none => .ok none
  | some (.string s) => .ok (some s)
  | some _ => .fault (.wrongKind field "a string")

/-- A number of 16 bits, below the tags of a value. -/
def uint16? (v : Value) : Option UInt16 :=
  v.natural?.bind fun n => if n < UInt16.size then some (UInt16.ofNat n) else none

/-- A type that may be declared. -/
def checkType (v : Option Value) : Checked RecordType :=
  ((requiredString "type" v).guard (fun s => (RecordType.ofName s).isManaged) .unsupportedType).map
    RecordType.ofName

/-- The faults of a name, given the type if it is known. The length of the full name is left
    unchecked when the name has no known form, or when there is no domain. -/
def nameFaults (name : String) (type : Option RecordType) (domain : String) : List EntryFault :=
  let full := Name.qualify name domain
  let tooLong :=
    if domain ≠ "" ∧ maxNameSize < full.utf8ByteSize then [.nameTooLong full] else []
  if type = some .srv then
    (if isServiceName name then [] else [.invalidServiceName name]) ++ tooLong
  else if isRecordName name then tooLong
  else [.invalidName name]

/-! ### Values of records -/

/-- A number of service data. -/
def checkServiceNumber (field : String) : Option Value → Checked UInt16
  | none => .fault (.missingServiceField field)
  | some v => .ofOption (.invalidServiceField field v.render) (uint16? v)

/-- The target of service data. -/
def checkServiceTarget : Option Value → Checked String
  | none => .fault (.missingServiceField "target")
  | some v =>
    .ofOption (.invalidServiceField "target" v.render) ((scalarText? v).filter isHostText)

/-- Service data. -/
def checkService (e : Entry) : Checked Service :=
  let priority := checkServiceNumber "priority" e.priority
  let weight := checkServiceNumber "weight" e.weight
  let port := checkServiceNumber "port" e.port
  let target := checkServiceTarget e.target
  { value := do
      return {
        priority := ← priority.value
        weight := ← weight.value
        port := ← port.value
        target := ← target.value }
    faults := priority.faults ++ weight.faults ++ port.faults ++ target.faults }

/-- The preference of a mail record. -/
def checkPriority : Option Value → Checked UInt16
  | none => .fault (.missingField "priority")
  | some v => .ofOption (.invalidPriority v.render) (uint16? v)

/-- Whether an entry at the apex is declared to stand outside of the proxy. -/
def isBareApex (e : Entry) (name : Option String) : Bool :=
  name = some Name.apex && e.proxied.bind Value.bool? = some false

/-- What an entry of a type says, with the preference of a mail record. -/
def checkValue (type : RecordType) (e : Entry) (name : Option String) :
    Checked (RecordValue × Option UInt16) :=
  let content := requiredText "content" e.content
  let flat (c : Checked String) : Checked (RecordValue × Option UInt16) :=
    c.map fun text => (.content text, none)
  match type with
  | .a => flat (content.guard (fun s => (Ipv4.parse? s).isSome) .invalidIpv4)
  | .aaaa => flat (content.guard (fun s => (Ipv6.parse? s).isSome) .invalidIpv6)
  | .cname =>
    let apex := if isBareApex e name then [.apexAliasWithoutProxy] else []
    flat ((content.andAlso apex).guard isHostText .invalidTarget)
  | .mx =>
    let priority := checkPriority e.priority
    { value := do return (.content (← content.value), some (← priority.value))
      faults := priority.faults ++ content.faults }
  | .txt | .ns => flat content
  | .srv => (checkService e).map fun data => (.service data, none)
  | .caa | .other _ => ⟨none, []⟩

/-- The proxy setting, which only some types may have on. -/
def checkProxied (type : Option RecordType) : Option Value → Checked (Option Bool)
  | none => .ok none
  | some (.bool on) =>
    match type with
    | some t => ⟨some (some on), if on && !t.isProxiable then [.proxyNotSupported t] else []⟩
    | none => .ok (some on)
  | some _ => .fault (.wrongKind "proxied" "a boolean")

/-- The time to live: the word for the provider's choice, or a number of seconds. -/
def checkTtl : Option Value → Checked Ttl
  | none => .ok .auto
  | some (.string "auto") => .ok .auto
  | some v =>
    .ofOption (.invalidTtl v.render) (v.natural?.bind fun n =>
      if Ttl.minSeconds ≤ n ∧ n < UInt32.size then some (.seconds (UInt32.ofNat n)) else none)

/-! ### Records -/

/-- An entry with all of its parts checked. -/
structure CheckedEntry where
  name : Checked String
  type : Checked RecordType
  value : Checked (RecordValue × Option UInt16)
  proxied : Checked (Option Bool)
  ttl : Checked Ttl
  comment : Checked (Option String)
  /-- The faults of the form of the name. -/
  nameFaults : List EntryFault

namespace CheckedEntry

/-- The faults of an entry, in the order of its parts. -/
def faults (c : CheckedEntry) : List EntryFault :=
  c.name.faults ++ c.type.faults ++ c.nameFaults ++ c.value.faults ++ c.proxied.faults ++
    c.ttl.faults ++ c.comment.faults

/-- The record of an entry whose parts all have values. -/
def record? (c : CheckedEntry) : Option Record := do
  let (value, priority) ← c.value.value
  return {
    name := ← c.name.value
    type := ← c.type.value
    value
    ttl := ← c.ttl.value
    proxied := ← c.proxied.value
    comment := ← c.comment.value
    priority }

end CheckedEntry

namespace Entry

/-- Check all parts of an entry of a domain. -/
def check (e : Entry) (domain : String) : CheckedEntry :=
  let name := requiredString "name" e.name
  let type := checkType e.type
  { name
    type
    nameFaults := name.value.elim [] (ZoneSync.nameFaults · type.value domain)
    value := type.value.elim ⟨none, []⟩ (checkValue · e name.value)
    proxied := checkProxied type.value e.proxied
    ttl := checkTtl e.ttl
    comment := optionalString "comment" e.comment }

/-- The record of an entry of a domain, or all faults of the entry. -/
def parse (e : Entry) (domain : String) : Except (List EntryFault) Record :=
  let checked := e.check domain
  match checked.faults, checked.record? with
  | [], some record => .ok record
  | faults, _ => .error faults

/-- The faults of an entry of a domain. -/
def faults (e : Entry) (domain : String) : List EntryFault :=
  match e.parse domain with
  | .ok _ => []
  | .error faults => faults

end Entry

end ZoneSync

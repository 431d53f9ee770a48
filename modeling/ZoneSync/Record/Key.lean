import ZoneSync.Record.Basic

namespace ZoneSync

/-!
# Record keys

A declared record and a live one are the same resource when they have one key: the normal form of
the full name, and the type. What they say plays no part.

* `RecordKey.ofName`, `Record.keyIn`, `LiveRecord.key` — the key of a full name and type, of a
  declared record in its domain, and of a live record;
* an order on keys, by name and then by type, and `RecordKey.sorted`.
-/

/-- The identity of a record: a normalised full name and a type. -/
structure RecordKey where
  name : String
  type : RecordType
  deriving DecidableEq, Repr

namespace RecordKey

/-- The key of a full name and a type. -/
def ofName (name : String) (type : RecordType) : RecordKey :=
  ⟨Name.normalize name, type⟩

@[simp] theorem name_ofName (name : String) (type : RecordType) :
    (ofName name type).name = Name.normalize name := rfl

@[simp] theorem type_ofName (name : String) (type : RecordType) :
    (ofName name type).type = type := rfl

/-- The text of a key: the name and the type around a colon. -/
def toString (k : RecordKey) : String :=
  k.name ++ ":" ++ k.type.name

instance : ToString RecordKey := ⟨toString⟩

instance : Ord RecordKey where
  compare x y := (compare x.name y.name).then (compare x.type y.type)

/-- The distinct keys of a list in their order. -/
def sorted (keys : List RecordKey) : List RecordKey :=
  (keys.mergeSort fun x y => (compare x y).isLE).eraseReps

end RecordKey

/-- The key of a declared record in its domain. -/
def Record.keyIn (r : Record) (domain : String) : RecordKey :=
  .ofName (Name.qualify r.name domain) r.type

/-- The key of a record of a zone. -/
def LiveRecord.key (l : LiveRecord) : RecordKey :=
  .ofName l.record.name l.record.type

end ZoneSync

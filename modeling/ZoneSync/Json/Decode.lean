import ZoneSync.Json.Basic

namespace ZoneSync

namespace Json

/-!
# Typed readings of a document

A reader gives a value or nothing. Objects with known keys may also be given as the array of their
fields in order; unknown keys are passed over, a known key may stand once.

* `text?`, `bool?`, `bounded?`, `integer?`, `listOf?`, `nullable?` — readings of plain values;
* `Fields` — the known fields of an object, read by `fieldsOf?`;
* `Fields.required?`, `Fields.nullable?`, `Fields.orElse?` — one field: it must be there, it may be
  null or missing, or a missing one has a default.
-/

/-! ### Plain values -/

/-- A string. -/
def text? : Json → Option String
  | .string text => text
  | _ => none

/-- A truth value. -/
def bool? : Json → Option Bool
  | .bool b => some b
  | _ => none

/-- An integer of 64 bits, with or without a sign. -/
def integer? : Json → Option Int
  | .number n => n.integer?
  | _ => none

/-- A signed integer of 64 bits. -/
def int64? (j : Json) : Option Int :=
  j.integer?.filter (· < 0x8000000000000000)

/-- A natural number up to a bound. -/
def bounded? (bound : Nat) (j : Json) : Option Nat :=
  match j.integer? with
  | some (.ofNat n) => if n ≤ bound then some n else none
  | _ => none

/-- A number of 16 bits. -/
def uint16? (j : Json) : Option UInt16 :=
  (j.bounded? 0xFFFF).map UInt16.ofNat

/-- A number of 32 bits. -/
def uint32? (j : Json) : Option UInt32 :=
  (j.bounded? 0xFFFFFFFF).map UInt32.ofNat

/-- A number of 64 bits. -/
def uint64? (j : Json) : Option UInt64 :=
  (j.bounded? 0xFFFFFFFFFFFFFFFF).map UInt64.ofNat

/-- An array, each item read by `read?`. -/
def listOf? {α : Type} (read? : Json → Option α) : Json → Option (List α)
  | .array items => items.mapM read?
  | _ => none

/-- A value that may be null. -/
def nullable? {α : Type} (read? : Json → Option α) : Json → Option (Option α)
  | .null => some none
  | j => (read? j).map some

/-! ### Objects -/

/-- The known fields that were found: each with its key, and whether they came in an object or as
    an array. -/
structure Fields where
  found : List (String × Json)
  inArray : Bool

/-- The known keys of an object with their values; nothing if a key is no text or a known key is
    repeated. -/
def knownFields? (names : List String) :
    List (Option String × Json) → Option (List (String × Json))
  | [] => some []
  | (none, _) :: _ => none
  | (some key, value) :: fields => do
    let found ← knownFields? names fields
    if key ∉ names then return found
    else if found.any (·.1 = key) then none
    else return (key, value) :: found

/-- The fields of an object, or of an array of at most as many items as there are names. -/
def fieldsOf? (names : List String) : Json → Option Fields
  | .object fields => (knownFields? names fields).map (⟨·, false⟩)
  | .array items =>
    if items.length ≤ names.length then some ⟨names.zip items, true⟩ else none
  | _ => none

namespace Fields

/-- The document under a key. -/
def get? (fs : Fields) (key : String) : Option Json :=
  (fs.found.find? (·.1 = key)).map (·.2)

/-- A field that has to be there. -/
def required? {α : Type} (fs : Fields) (key : String) (read? : Json → Option α) : Option α :=
  (fs.get? key).bind read?

/-- A field that takes a default when it is missing. -/
def orElse? {α : Type} (fs : Fields) (key : String) (default : α) (read? : Json → Option α) :
    Option α :=
  match fs.get? key with
  | some j => read? j
  | none => some default

/-- A field that may be null, and may be missing from an object but not from an array. -/
def nullable? {α : Type} (fs : Fields) (key : String) (read? : Json → Option α) :
    Option (Option α) :=
  match fs.get? key with
  | some j => Json.nullable? read? j
  | none => if fs.inArray then none else some none

end Fields

end Json

end ZoneSync

import ZoneSync.Decimal.Power
import ZoneSync.Text.Digits

namespace ZoneSync

/-!
# JSON documents

The tree of a JSON text, with what typed readers still have to see: whether a number was written as
an integer, the order and the repetition of keys, and strings that are no text because they hold
half of a surrogate pair.

* `Numeral` — a number as it was written; `Numeral.integer?` is its value if it is an integer of
  64 bits;
* `Json` — the tree;
* `Json.isStorable` — whether a document can be kept as a value: its strings are texts, its numbers
  are in range, and its nesting stays within a bound;
* `Json.lastWins` — a document of which repeated keys keep the last entry.
-/

/-! ### Numbers -/

/-- A number in decimal notation: a sign, all digits of the whole and the fractional part, and the
    power of ten of the last digit. -/
structure Numeral where
  negative : Bool
  significand : Nat
  exponent : Int
  /-- Written without a fraction and without an exponent. -/
  isWhole : Bool
  deriving DecidableEq, Repr

namespace Numeral

/-- The numeral of a natural number. -/
def ofNat (n : Nat) : Numeral where
  negative := false
  significand := n
  exponent := 0
  isWhole := true

/-- The integer that a numeral writes: it has no fraction and no exponent, it is not minus zero,
    and it fits a signed or an unsigned number of 64 bits. -/
def integer? (n : Numeral) : Option Int :=
  if !n.isWhole then none
  else if n.negative then
    if 0 < n.significand ∧ n.significand ≤ 0x8000000000000000 then
      some (-(n.significand : Int))
    else none
  else if n.significand < UInt64.size then some n.significand else none

/-- The least number that is rounded to infinity in double precision. -/
def infinityThreshold : Nat := twoPow 1024 - twoPow 970

/-- Whether a numeral is in the range of double precision. -/
def isFinite (n : Numeral) : Bool :=
  n.significand = 0 ||
    (if n.exponent < 0 then
      n.significand < infinityThreshold * tenPow n.exponent.natAbs
    else n.exponent ≤ 308 && n.significand * tenPow n.exponent.natAbs < infinityThreshold)

@[simp] theorem integer?_ofNat {n : Nat} (h : n < UInt64.size) :
    (ofNat n).integer? = some (n : Int) := by
  show (if n < UInt64.size then some (n : Int) else none) = _
  exact if_pos h

end Numeral

/-! ### Trees -/

/-- A JSON document. A string is `none` if it is no text: one half of a surrogate pair stands in
    it without the other. -/
inductive Json where
  | null
  | bool (b : Bool)
  | number (n : Numeral)
  | string (text : Option String)
  | array (items : List Json)
  | object (fields : List (Option String × Json))
  deriving Repr

namespace Json

/-- The string of a text. -/
def ofText (s : String) : Json := .string (some s)

/-- The number of a natural number. -/
def ofNat (n : Nat) : Json := .number (.ofNat n)

/-- An object with the keys given. -/
def ofFields (fields : List (String × Json)) : Json :=
  .object (fields.map fun (key, value) => (some key, value))

/-- The text of an optional value; nothing is null. -/
def ofOption {α : Type} (toJson : α → Json) : Option α → Json
  | some x => toJson x
  | none => .null

/-- The number of levels of nesting that a document may have where it is kept. -/
def maxNesting : Nat := 127

mutual

/-- Whether a document can be kept, with `room` further levels of nesting. -/
def isStorable (room : Nat) : Json → Bool
  | .null => true
  | .bool _ => true
  | .number n => n.integer?.isSome || n.isFinite
  | .string text => text.isSome
  | .array items => 0 < room && areStorable (room - 1) items
  | .object fields => 0 < room && areStorableFields (room - 1) fields

/-- `isStorable` for the items of an array. -/
def areStorable (room : Nat) : List Json → Bool
  | [] => true
  | item :: items => isStorable room item && areStorable room items

/-- `isStorable` for the fields of an object. -/
def areStorableFields (room : Nat) : List (Option String × Json) → Bool
  | [] => true
  | (key, value) :: fields =>
    key.isSome && isStorable room value && areStorableFields room fields

end

/-- Set a key: its entry is replaced, or a new one is put at the end. -/
def putField (key : Option String) (value : Json) :
    List (Option String × Json) → List (Option String × Json)
  | [] => [(key, value)]
  | field :: fields =>
    if field.1 = key then (key, value) :: fields else field :: putField key value fields

/-- The document with the last entry only of each key of its outermost object. -/
def lastWins : Json → Json
  | .object fields => .object (fields.foldl (fun kept (key, value) => putField key value kept) [])
  | other => other

end Json

end ZoneSync

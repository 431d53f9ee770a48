import ZoneSync.Decimal.Shortest
import ZoneSync.Yaml.Fault

namespace ZoneSync.Yaml

/-!
# Values

* `Value` — what the nodes of a document stand for;
* `Value.text?`, `Value.bool?`, `Value.natural?` — what a value is below its tags;
* `Value.sameKey` — whether two values are one key of a mapping: the order of the entries of
  mappings does not matter, and all zeros of double precision are equal.
-/

/-- A number. -/
inductive Number where
  /-- Between `-2 ^ 63` and `2 ^ 64`. -/
  | integer (n : Int)
  | float (x : Binary64)
  deriving DecidableEq, Repr

/-- The text of a number. -/
def Number.toText : Number → String
  | integer n => toString n
  | float x => x.toText

/-- Whether two numbers are one key; an integer is no float. -/
def Number.sameKey : Number → Number → Bool
  | integer m, integer n => m = n
  | float x, float y => x.sameKey y
  | _, _ => false

/-- A value. -/
inductive Value where
  | null
  | bool (b : Bool)
  | number (n : Number)
  | string (s : String)
  | sequence (items : List Value)
  | mapping (entries : List (Value × Value))
  /-- A value with a tag of its own, given without its exclamation mark. -/
  | tagged (tag : String) (value : Value)
  deriving Repr

namespace Value

/-- A value without the tags around it. -/
def untagged : Value → Value
  | tagged _ value => untagged value
  | value => value

/-- The string below the tags of a value. -/
def text? (v : Value) : Option String :=
  match v.untagged with
  | string s => some s
  | _ => none

/-- The truth value below the tags of a value. -/
def bool? (v : Value) : Option Bool :=
  match v.untagged with
  | bool b => some b
  | _ => none

/-- The natural number below the tags of a value. -/
def natural? (v : Value) : Option Nat :=
  match v.untagged with
  | number (.integer (.ofNat n)) => some n
  | _ => none

/-- The text of a tag. -/
def tagText (tag : String) : String :=
  "!" ++ tag

/-! ### Keys -/

mutual

/-- Whether two values are one key. -/
def sameKey : Value → Value → Bool
  | null, null => true
  | bool a, bool b => a = b
  | number m, number n => m.sameKey n
  | string s, string t => s = t
  | sequence xs, sequence ys => sameItems xs ys
  | mapping xs, mapping ys => xs.length = ys.length && sameEntries xs ys
  | tagged t x, tagged u y => t = u && sameKey x y
  | _, _ => false

/-- Whether two sequences are equal item by item. -/
def sameItems : List Value → List Value → Bool
  | [], [] => true
  | x :: xs, y :: ys => sameKey x y && sameItems xs ys
  | _, _ => false

/-- Whether every entry of the first mapping is one of the second. -/
def sameEntries : List (Value × Value) → List (Value × Value) → Bool
  | [], _ => true
  | (key, value) :: xs, ys => hasEntry key value ys && sameEntries xs ys

/-- Whether a mapping has an entry. -/
def hasEntry (key value : Value) : List (Value × Value) → Bool
  | [] => false
  | (k, v) :: ys => (sameKey key k && sameKey value v) || hasEntry key value ys

end

end Value

end ZoneSync.Yaml

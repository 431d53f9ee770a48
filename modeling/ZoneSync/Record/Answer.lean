import ZoneSync.Record.Comparison
import ZoneSync.Text.Blank

namespace ZoneSync

open Text

/-!
# What resolvers should answer

* `Record.expectedAnswer?` — the answer for a record; service records are not looked up;
* `splitPreference?` — the preference and the exchange of a mail answer;
* `RecordType.answerMatches` — whether an answer is the expected one, up to the spelling that the
  type allows and the white space around both.
-/

/-- The answer that a resolver should give for a record, if the record is looked up. -/
def Record.expectedAnswer? (r : Record) : Option String :=
  match r.type with
  | .srv => none
  | .mx => r.content?.map fun text => Nat.repr (r.priority.getD 0).toNat ++ " " ++ text
  | _ => r.content?

/-- The preference and the exchange of a mail answer: a number of 16 bits, white space, and the
    rest without the white space around it. -/
def splitPreference? (answer : String) : Option (UInt16 × String) := do
  let (preference, exchange) ← cutAtBlank answer.toList
  let n ← (readUInt16 (String.ofList preference)).toOption
  return (n, trim (String.ofList exchange))

/-- Whether trimmed answers of a type are the same. -/
def RecordType.sameAnswer (type : RecordType) (x y : String) : Bool :=
  match type with
  | .aaaa =>
    match Ipv6.parse? x, Ipv6.parse? y with
    | some v, some w => v = w
    | _, _ => false
  | .cname | .ns => Name.normalize x = Name.normalize y
  | .txt => unquote x = unquote y
  | .mx =>
    match splitPreference? x, splitPreference? y with
    | some (p, g), some (q, h) => p = q && Name.normalize g = Name.normalize h
    | _, _ => false
  | _ => x = y

/-- Whether an observed answer is the expected one. -/
def RecordType.answerMatches (type : RecordType) (expected observed : String) : Bool :=
  type.sameAnswer (trim expected) (trim observed)

end ZoneSync

import ZoneSync.Text.Digits
import ZoneSync.Text.Strip

namespace ZoneSync

open Text

/-!
# IPv4 addresses

An address is its four octets. The text form is four decimal numbers between dots, none with a
leading zero.

* `Ipv4.parse?` — the address a text writes, if it is one;
* `Ipv4.toString` — the text of an address.
-/

/-- An IPv4 address: four octets, the most significant first. -/
structure Ipv4 where
  octets : Vector UInt8 4
  deriving DecidableEq, Repr

namespace Ipv4

/-- An octet of a dotted quad: one to three digits, no leading zero, at most 255. -/
def octet? (cs : List Char) : Option UInt8 :=
  match cs with
  | [] => none
  | c :: rest =>
    if (c = '0' ∧ rest ≠ []) ∨ 2 < rest.length then none
    else
      match readDigits? 10 cs with
      | some n => if n ≤ 255 then some (UInt8.ofNat n) else none
      | none => none

/-- The address written by a list of characters. -/
def parseChars? (cs : List Char) : Option Ipv4 :=
  match (splitOn '.' cs).mapM octet? with
  | some [a, b, c, d] => some ⟨#v[a, b, c, d]⟩
  | _ => none

/-- The address that the whole text writes. -/
def parse? (s : String) : Option Ipv4 :=
  parseChars? s.toList

/-- The dotted quad of an address. -/
def toString (a : Ipv4) : String :=
  ".".intercalate (a.octets.toList.map fun o => Nat.repr o.toNat)

instance : ToString Ipv4 := ⟨toString⟩

end Ipv4

end ZoneSync

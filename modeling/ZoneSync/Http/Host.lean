import ZoneSync.Address.Ipv6
import ZoneSync.Decimal.Power
import ZoneSync.Http.Percent
import ZoneSync.Text.Utf8

namespace ZoneSync.Http

open Text

/-!
# Hosts

* `Host` — a domain or an address, as part of a URL;
* `Host.parse?` — the host that a text writes. A text that ends in a number has to be an IPv4
  address, of which the parts may be octal or hexadecimal and the last may stand for several octets;
* `Host.toString` — its canonical text.

Domains are taken in ASCII only.
-/

/-- The host of a URL. -/
inductive Host where
  /-- A name in lower case. -/
  | domain (name : String)
  | v4 (a : Ipv4)
  | v6 (a : Ipv6)
  deriving DecidableEq, Repr

/-! ### IPv4 numbers -/

/-- A part of an IPv4 address: hexadecimal after `0x`, octal after a zero, decimal otherwise. -/
def readPart? : List Char → Option Nat
  | [] => none
  | '0' :: 'x' :: ds | '0' :: 'X' :: ds => readDigits? 16 ds
  | '0' :: ds => readDigits? 8 ds
  | ds => readDigits? 10 ds

/-- The labels of a name, without the empty one after a final dot. -/
def hostLabels (cs : List Char) : List (List Char) :=
  let labels := splitOn '.' cs
  if 1 < labels.length ∧ labels.getLast? = some [] then labels.dropLast else labels

/-- Whether the last label of a name is written as a number. -/
def endsInNumber (cs : List Char) : Bool :=
  match (hostLabels cs).getLast? with
  | none | some [] => false
  | some label =>
    label.all isDigit || ((label.take 2 = ['0', 'x'] || label.take 2 = ['0', 'X']) &&
      (readPart? label).isSome)

/-- The number of up to four parts; all but the last are octets. -/
def joinParts? (value : Nat) : Nat → List Nat → Option Nat
  | _, [] => none
  | room, [last] =>
    if last < twoPow (8 * room) then some (value * twoPow (8 * room) + last) else none
  | 0, _ :: _ :: _ => none
  | room + 1, part :: parts =>
    if part < 256 then joinParts? (value * 256 + part) room parts else none

/-- The IPv4 address with a number. -/
def ipv4OfNat (n : Nat) : Ipv4 :=
  ⟨#v[UInt8.ofNat (n / 0x1000000), UInt8.ofNat (n / 0x10000), UInt8.ofNat (n / 0x100),
    UInt8.ofNat n]⟩

/-- The IPv4 address that a name with a number at its end writes. -/
def parseIpv4? (cs : List Char) : Option Ipv4 := do
  let parts ← (hostLabels cs).mapM readPart?
  if 4 < parts.length then none
  let n ← joinParts? 0 4 parts
  return ipv4OfNat n

/-! ### Hosts -/

namespace Host

/-- The characters that no domain has. -/
def isForbidden (c : Char) : Bool :=
  c.toNat ≤ 0x20 || 0x7F ≤ c.toNat ||
    c ∈ ['#', '%', '/', ':', '<', '>', '?', '@', '[', '\\', ']', '^', '|']

/-- The host that a text writes. -/
def parse? (cs : List Char) : Option Host :=
  match cs with
  | '[' :: rest =>
    if rest.getLast? = some ']' then (Ipv6.parseChars? rest.dropLast).map v6 else none
  | cs => do
    let name ← decodeUtf8? (percentDecode cs)
    let name := (lowerAscii name).toList
    if name.isEmpty || name.any isForbidden then none
    else if endsInNumber name then (parseIpv4? name).map v4
    else some (domain (String.ofList name))

/-- The text of a host; an IPv6 address stands in brackets. -/
def toString : Host → String
  | domain name => name
  | v4 a => a.toString
  | v6 a => "[" ++ a.toGroupText ++ "]"

end Host

end ZoneSync.Http

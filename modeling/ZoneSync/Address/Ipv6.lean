import ZoneSync.Address.Ipv4

namespace ZoneSync

open Text

/-!
# IPv6 addresses

An address is its eight groups of 16 bits. A text form has eight groups of one to four hexadecimal
digits between colons; the last two may be written as a dotted quad; and one `::` may stand for one
or more groups of zero, with no dotted quad in front of it.

* `Ipv6.parse?` — the address a text writes, if it is one;
* `Ipv6.toString` — the canonical text: lower case, no leading zeros, the longest run of at least
  two zero groups (the first of several) as `::`, and addresses that map an IPv4 address with the
  dotted quad of that address.
-/

/-- An IPv6 address: eight groups, the most significant first. -/
structure Ipv6 where
  groups : Vector UInt16 8
  deriving DecidableEq, Repr

namespace Ipv6

/-! ### Reading -/

/-- A group: one to four hexadecimal digits. -/
def group? (cs : List Char) : Option UInt16 :=
  if cs.isEmpty ∨ 4 < cs.length then none
  else (readDigits? 16 cs).map UInt16.ofNat

/-- The two groups that a dotted quad stands for. -/
def quadGroups (a : Ipv4) : List UInt16 :=
  [a.octets[0].toUInt16 * (256 : UInt16) + a.octets[1].toUInt16,
    a.octets[2].toUInt16 * (256 : UInt16) + a.octets[3].toUInt16]

/-- The groups of the pieces between colons; a dotted quad may be the last piece if `quad`. -/
def groupsOf? (quad : Bool) : List (List Char) → Option (List UInt16)
  | [] => some []
  | [piece] =>
    match group? piece with
    | some g => some [g]
    | none => if quad then (Ipv4.parseChars? piece).map quadGroups else none
  | piece :: pieces => do
    let g ← group? piece
    let gs ← groupsOf? quad pieces
    return g :: gs

/-- The groups of one side of `::`, or of a whole address without it; no text has no group. -/
def side? (quad : Bool) (cs : List Char) : Option (List UInt16) :=
  if cs.isEmpty then some [] else groupsOf? quad (splitOn ':' cs)

/-- The parts before and after the first `::`. -/
def cutAtGap : List Char → Option (List Char × List Char)
  | ':' :: ':' :: rest => some ([], rest)
  | c :: rest => (cutAtGap rest).map fun (before, after) => (c :: before, after)
  | [] => none

/-- An address of exactly eight groups. -/
def ofGroups? (gs : List UInt16) : Option Ipv6 :=
  if h : gs.length = 8 then some ⟨⟨gs.toArray, by simpa using h⟩⟩ else none

/-- The address written by a list of characters. -/
def parseChars? (cs : List Char) : Option Ipv6 :=
  match cutAtGap cs with
  | none => (side? true cs).bind ofGroups?
  | some (before, after) => do
    let high ← side? false before
    let low ← side? true after
    let known := high.length + low.length
    if known ≤ 7 then ofGroups? (high ++ List.replicate (8 - known) 0 ++ low) else none

/-- The address that the whole text writes. -/
def parse? (s : String) : Option Ipv6 :=
  parseChars? s.toList

/-! ### Writing -/

/-- The hexadecimal digits of groups, with colons between them. -/
def writeGroups (gs : List UInt16) : String :=
  ":".intercalate (gs.map fun g => String.ofList (digitsOf 16 g.toNat))

/-- The first longest run of zeros in `gs`, as position and length; `start` is the position of
    `gs` and `best` the longest run so far. -/
def longestZeros (best : Nat × Nat) (start : Nat) : List UInt16 → Nat × Nat
  | [] => best
  | g :: gs =>
    let run := ((g :: gs).takeWhile (· = 0)).length
    longestZeros (if best.2 < run then (start, run) else best) (start + 1) gs

/-- The IPv4 address that an address maps, if it has the form `::ffff:a.b.c.d`. -/
def mapped? (a : Ipv6) : Option Ipv4 :=
  if (a.groups.toList.take 6) = [0, 0, 0, 0, 0, 0xFFFF] then
    let high := a.groups[6]
    let low := a.groups[7]
    some ⟨#v[(high >>> 8).toUInt8, high.toUInt8, (low >>> 8).toUInt8, low.toUInt8]⟩
  else none

/-- The text of an address without a dotted quad. -/
def toGroupText (a : Ipv6) : String :=
  let gs := a.groups.toList
  let (start, length) := longestZeros (0, 0) 0 gs
  if length < 2 then writeGroups gs
  else writeGroups (gs.take start) ++ "::" ++ writeGroups (gs.drop (start + length))

/-- The canonical text of an address. -/
def toString (a : Ipv6) : String :=
  match a.mapped? with
  | some v4 => "::ffff:" ++ v4.toString
  | none => a.toGroupText

instance : ToString Ipv6 := ⟨toString⟩

end Ipv6

end ZoneSync

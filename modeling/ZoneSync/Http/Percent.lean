import ZoneSync.Text.Digits

namespace ZoneSync.Http

/-!
# Percent encoding

* `percentEncode` — a text in which the characters of a set stand as their octets in UTF-8;
* `isEncodedInPath`, `isEncodedInQuery`, `isEncodedInFragment` — the sets for the parts of an
  address;
* `formEncode` — a text as it stands in a form;
* `percentDecode` — the octets that a text stands for.
-/

/-- A hexadecimal digit in upper case. -/
def upperHexDigit (n : UInt8) : Char :=
  if n < 10 then Char.ofNat (0x30 + n.toNat) else Char.ofNat (0x37 + n.toNat)

/-- An octet as a percent sign and two digits. -/
def percentOctet (o : UInt8) : List Char :=
  ['%', upperHexDigit (o / 16), upperHexDigit (o % 16)]

/-- A character as the octets of its form in UTF-8. -/
def percentChar (c : Char) : List Char :=
  (String.utf8EncodeChar c).flatMap percentOctet

/-- A text in which the characters of a set are encoded. -/
def percentEncode (isEncoded : Char → Bool) (cs : List Char) : List Char :=
  cs.flatMap fun c => if isEncoded c then percentChar c else [c]

/-! ### Sets -/

/-- The characters other than those that are printable in ASCII. -/
def isEncodedEverywhere (c : Char) : Bool :=
  c.toNat < 0x20 || 0x7E < c.toNat

/-- The characters that are encoded in a fragment. -/
def isEncodedInFragment (c : Char) : Bool :=
  isEncodedEverywhere c || c ∈ [' ', '\x22', '<', '>', '\x60']

/-- The characters that are encoded in a path. -/
def isEncodedInPath (c : Char) : Bool :=
  isEncodedInFragment c || c ∈ ['#', '?', '\x7b', '\x7d']

/-- The characters that are encoded in a query. -/
def isEncodedInQuery (c : Char) : Bool :=
  isEncodedEverywhere c || c ∈ [' ', '\x22', '#', '<', '>', '\x27']

/-! ### Forms -/

/-- The characters that stand for themselves in a form. -/
def isPlainInForm (c : Char) : Bool :=
  c.toNat < 0x80 && (c.isAlphanum || c ∈ ['*', '-', '.', '_'])

/-- A text as it stands in a form; a space becomes a plus sign. -/
def formEncode (cs : List Char) : List Char :=
  cs.flatMap fun c =>
    if isPlainInForm c then [c] else if c = ' ' then ['+'] else percentChar c

/-! ### Decoding -/

/-- The octets that a text stands for; a percent sign without two digits stands for itself. -/
def percentDecode : List Char → List UInt8
  | [] => []
  | '%' :: a :: b :: rest =>
    match Text.readDigits? 16 [a, b] with
    | some n => UInt8.ofNat n :: percentDecode rest
    | none => 0x25 :: percentDecode (a :: b :: rest)
  | c :: rest => String.utf8EncodeChar c ++ percentDecode rest

end ZoneSync.Http

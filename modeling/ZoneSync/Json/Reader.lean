import ZoneSync.Json.Basic

namespace ZoneSync

open Text

namespace Json

/-!
# Reading JSON texts

* `Json.read?` — the document of a whole text;
* `Json.readNumeral?`, `Json.readString?` — its parts, each with the rest of the text.

The readers of values, items and fields call each other; every value takes a character, so the
length of the text bounds their nesting.
-/

/-- Drop the white space of JSON. -/
def skipSpace (cs : List Char) : List Char :=
  cs.dropWhile fun c => c = ' ' || c = '\t' || c = '\n' || c = '\r'

/-! ### Numbers -/

/-- The value of a run of decimal digits that follows `n`. -/
def digitsValue (n : Nat) (ds : List Char) : Nat :=
  ds.foldl (fun n c => 10 * n + (digitValue? 10 c).getD 0) n

/-- The digits of a whole part: a lone zero, or digits that do not begin with zero. -/
def readWhole? (cs : List Char) : Option (List Char × List Char) :=
  match cs.takeWhile isDigit with
  | [] => none
  | '0' :: _ :: _ => none
  | ds => some (ds, cs.dropWhile isDigit)

/-- The digits after a point, if there is one. -/
def readFraction? : List Char → Option (Option (List Char) × List Char)
  | '.' :: cs =>
    match cs.takeWhile isDigit with
    | [] => none
    | ds => some (some ds, cs.dropWhile isDigit)
  | cs => some (none, cs)

/-- The exponent, if there is one. -/
def readExponent? (cs : List Char) : Option (Option Int × List Char) :=
  let unsigned (negative : Bool) (cs : List Char) : Option (Option Int × List Char) :=
    match cs.takeWhile isDigit with
    | [] => none
    | ds =>
      let n : Int := digitsValue 0 ds
      some (some (if negative then -n else n), cs.dropWhile isDigit)
  match cs with
  | 'e' :: '-' :: cs | 'E' :: '-' :: cs => unsigned true cs
  | 'e' :: '+' :: cs | 'E' :: '+' :: cs => unsigned false cs
  | 'e' :: cs | 'E' :: cs => unsigned false cs
  | cs => some (none, cs)

/-- A number. -/
def readNumeral? (cs : List Char) : Option (Numeral × List Char) := do
  let (negative, cs) := match cs with
    | '-' :: cs => (true, cs)
    | cs => (false, cs)
  let (whole, cs) ← readWhole? cs
  let (fraction, cs) ← readFraction? cs
  let (power, cs) ← readExponent? cs
  let decimals := fraction.getD []
  return ({
    negative
    significand := digitsValue (digitsValue 0 whole) decimals
    exponent := power.getD 0 - decimals.length
    isWhole := fraction.isNone && power.isNone }, cs)

/-! ### Strings -/

/-- Four hexadecimal digits. -/
def readUnit? : List Char → Option (Nat × List Char)
  | a :: b :: c :: d :: cs => (readDigits? 16 [a, b, c, d]).map (·, cs)
  | _ => none

/-- The character of a simple escape. -/
def simpleEscape? : Char → Option Char
  | '\x22' => some '\x22'
  | '\\' => some '\\'
  | '/' => some '/'
  | 'b' => some '\x08'
  | 'f' => some '\x0c'
  | 'n' => some '\n'
  | 'r' => some '\r'
  | 't' => some '\t'
  | _ => none

/-- The UTF-16 units of a string after its opening quote, and the rest after its closing quote.
    Every step takes a character, and `fuel` counts the steps. -/
def readUnits? : Nat → List Char → Option (List Nat × List Char)
  | 0, _ => none
  | fuel + 1, cs =>
    match cs with
    | '\x22' :: rest => some ([], rest)
    | '\\' :: 'u' :: rest => do
      let (unit, rest) ← readUnit? rest
      let (units, rest) ← readUnits? fuel rest
      return (unit :: units, rest)
    | '\\' :: c :: rest => do
      let escaped ← simpleEscape? c
      let (units, rest) ← readUnits? fuel rest
      return (escaped.toNat :: units, rest)
    | c :: rest =>
      if c.toNat < 0x20 ∨ c = '\\' then none
      else do
        let (units, rest) ← readUnits? fuel rest
        return (c.toNat :: units, rest)
    | [] => none

/-- The text of code points and surrogates, unless a surrogate lacks its other half. -/
def textOfUnits? : List Nat → Option (List Char)
  | [] => some []
  | high :: low :: rest =>
    if 0xD800 ≤ high ∧ high < 0xDC00 then
      if 0xDC00 ≤ low ∧ low < 0xE000 then
        let point := 0x10000 + (high - 0xD800) * 0x400 + (low - 0xDC00)
        (textOfUnits? rest).map (Char.ofNat point :: ·)
      else none
    else if 0xDC00 ≤ high ∧ high < 0xE000 then none
    else (textOfUnits? (low :: rest)).map (Char.ofNat high :: ·)
  | [unit] => if 0xD800 ≤ unit ∧ unit < 0xE000 then none else some [Char.ofNat unit]

/-- A string after its opening quote. -/
def readString? (cs : List Char) : Option (Option String × List Char) := do
  let (units, rest) ← readUnits? (cs.length + 1) cs
  return ((textOfUnits? units).map String.ofList, rest)

/-! ### Values -/

/-- The rest of a text after a word that it begins with. -/
def skipWord? (word : String) (cs : List Char) : Option (List Char) :=
  if word.toList.isPrefixOf cs then some (cs.drop word.length) else none

mutual

/-- A value, white space in front of it included. -/
def readValue? : Nat → List Char → Option (Json × List Char)
  | 0, _ => none
  | fuel + 1, cs =>
    let cs := skipSpace cs
    match cs with
    | '[' :: rest =>
      match skipSpace rest with
      | ']' :: rest => some (.array [], rest)
      | rest => (readItems? fuel rest).map fun (items, rest) => (.array items, rest)
    | '\x7b' :: rest =>
      match skipSpace rest with
      | '\x7d' :: rest => some (.object [], rest)
      | rest => (readFields? fuel rest).map fun (fields, rest) => (.object fields, rest)
    | '\x22' :: rest => (readString? rest).map fun (text, rest) => (.string text, rest)
    | 'n' :: _ => (skipWord? "null" cs).map (.null, ·)
    | 't' :: _ => (skipWord? "true" cs).map (.bool true, ·)
    | 'f' :: _ => (skipWord? "false" cs).map (.bool false, ·)
    | _ => (readNumeral? cs).map fun (n, rest) => (.number n, rest)

/-- The items of an array up to its bracket; there is one at least. -/
def readItems? : Nat → List Char → Option (List Json × List Char)
  | 0, _ => none
  | fuel + 1, cs => do
    let (item, rest) ← readValue? fuel cs
    match skipSpace rest with
    | ']' :: rest => return ([item], rest)
    | ',' :: rest =>
      let (items, rest) ← readItems? fuel rest
      return (item :: items, rest)
    | _ => none

/-- The fields of an object up to its brace; there is one at least. -/
def readFields? : Nat → List Char → Option (List (Option String × Json) × List Char)
  | 0, _ => none
  | fuel + 1, cs => do
    let '\x22' :: rest := skipSpace cs | none
    let (key, rest) ← readString? rest
    let ':' :: rest := skipSpace rest | none
    let (value, rest) ← readValue? fuel rest
    match skipSpace rest with
    | '\x7d' :: rest => return ([(key, value)], rest)
    | ',' :: rest =>
      let (fields, rest) ← readFields? fuel rest
      return ((key, value) :: fields, rest)
    | _ => none

end

/-- The document that a whole text holds, white space around it aside. -/
def read? (s : String) : Option Json := do
  let (value, rest) ← readValue? (2 * s.toList.length + 2) s.toList
  if (skipSpace rest).isEmpty then some value else none

end Json

end ZoneSync

import ZoneSync.Text.Digits
import ZoneSync.Yaml.Value

namespace ZoneSync.Yaml

open Text

/-!
# What plain scalars mean

A plain scalar is null, a truth value, an integer, a number of double precision, or a string.

* `isNullWord`, `boolWord?` — the words for null and for the truth values;
* `integerValue?` — integers: decimal without leading zeros, or with `0x`, `0o`, `0b`;
* `floatValue?` — decimals with or without an exponent, infinities, and the number that is none;
* `Value.ofPlain` — the value of a plain scalar.
-/

/-- The words for null. -/
def isNullWord (s : String) : Bool :=
  s = "~" || s = "null" || s = "Null" || s = "NULL"

/-- The words for the truth values. -/
def boolWord? (s : String) : Option Bool :=
  if s = "true" || s = "True" || s = "TRUE" then some true
  else if s = "false" || s = "False" || s = "FALSE" then some false
  else none

/-! ### Integers -/

/-- Drop one sign. -/
def dropSign : List Char → List Char
  | '-' :: cs | '+' :: cs => cs
  | cs => cs

/-- Whether a text is all digits but for a sign, and has a zero too many in front. -/
def hasLeadingZero (cs : List Char) : Bool :=
  match dropSign cs with
  | '0' :: c :: rest => (c :: rest).all isDigit
  | _ => false

/-- The digits of a base, at least one. -/
def magnitude? (base : Nat) (cs : List Char) : Option Nat :=
  if cs.isEmpty then none else readDigits? base cs

/-- The base that a prefix stands for, with the digits after it. -/
def basePrefix? : List Char → Option (Nat × List Char)
  | '0' :: 'x' :: cs => some (16, cs)
  | '0' :: 'o' :: cs => some (8, cs)
  | '0' :: 'b' :: cs => some (2, cs)
  | _ => none

/-- An integer without bounds, if the text writes one. -/
def integerLiteral? (cs : List Char) : Option Int :=
  let decimal (cs : List Char) : Option Int :=
    if hasLeadingZero cs then none
    else
      match cs with
      | '-' :: ds => (magnitude? 10 ds).map fun n => -(n : Int)
      | '+' :: ds => (magnitude? 10 ds).map Int.ofNat
      | ds => (magnitude? 10 ds).map Int.ofNat
  match cs with
  | '-' :: rest =>
    match basePrefix? rest with
    | some (base, ds) => (magnitude? base ds).map fun n => -(n : Int)
    | none => decimal cs
  | '+' :: rest =>
    match basePrefix? rest with
    | some (base, ds) => (magnitude? base ds).map Int.ofNat
    | none => decimal cs
  | _ =>
    match basePrefix? cs with
    | some (base, ds) => (magnitude? base ds).map Int.ofNat
    | none => decimal cs

/-! ### Numbers of double precision -/

/-- The digits in front of and behind the point of a decimal, one at least, and the rest. -/
def decimalDigits? (cs : List Char) : Option (List Char × List Char × List Char) :=
  let whole := cs.takeWhile isDigit
  match cs.dropWhile isDigit with
  | '.' :: rest =>
    let fraction := rest.takeWhile isDigit
    if whole.isEmpty && fraction.isEmpty then none
    else some (whole, fraction, rest.dropWhile isDigit)
  | rest => if whole.isEmpty then none else some (whole, [], rest)

/-- The exponent at the end of a decimal; zero if there is none. -/
def exponent? : List Char → Option Int
  | [] => some 0
  | e :: cs =>
    if e = 'e' ∨ e = 'E' then
      match cs with
      | '-' :: ds => (magnitude? 10 ds).map fun n => -(n : Int)
      | '+' :: ds => (magnitude? 10 ds).map Int.ofNat
      | ds => (magnitude? 10 ds).map Int.ofNat
    else none

/-- A decimal, with a minus sign or without. -/
def decimal? (cs : List Char) : Option Binary64 := do
  let (negative, cs) :=
    match cs with
    | '-' :: cs => (true, cs)
    | cs => (false, cs)
  let (whole, fraction, rest) ← decimalDigits? cs
  let power ← exponent? rest
  let digits ← readDigits? 10 (whole ++ fraction)
  let x := Binary64.ofDecimal negative digits (power - fraction.length)
  if x.isFinite then some x else none

/-- The number of double precision that a text writes. -/
def floatValue? (s : String) : Option Binary64 :=
  if s = ".inf" || s = ".Inf" || s = ".INF" || s = "+.inf" || s = "+.Inf" || s = "+.INF" then
    some (.infinite false)
  else if s = "-.inf" || s = "-.Inf" || s = "-.INF" then some (.infinite true)
  else if s = ".nan" || s = ".NaN" || s = ".NAN" then some .nan
  else
    match s.toList with
    | '+' :: '-' :: _ | '+' :: '+' :: _ => none
    | '+' :: cs => decimal? cs
    | cs => decimal? cs

/-! ### Values -/

/-- The value of an integer: it has to fit 64 bits, and past 128 bits it is none. -/
def integerValue? (s : String) : Option (Except Fault Value) :=
  match integerLiteral? s.toList with
  | some n =>
    if -0x8000000000000000 ≤ n ∧ n < 0x10000000000000000 then
      some (.ok (.number (.integer n)))
    else if -0x80000000000000000000000000000000 ≤ n ∧ n < 0x100000000000000000000000000000000 then
      some (.error (.wrongKind "an integer of 64 bits"))
    else none
  | none => none

/-- The value of a plain scalar. -/
def Value.ofPlain (s : String) : Except Fault Value :=
  if s.isEmpty || isNullWord s then .ok .null
  else
    match boolWord? s with
    | some b => .ok (.bool b)
    | none =>
      match integerValue? s with
      | some result => result
      | none =>
        if hasLeadingZero s.toList then .ok (.string s)
        else
          match floatValue? s with
          | some x => .ok (.number (.float x))
          | none => .ok (.string s)

end ZoneSync.Yaml

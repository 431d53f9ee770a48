import ZoneSync.Decimal.Power

namespace ZoneSync

/-!
# Numbers of double precision

A finite number is `m · 2 ^ e` with `m < 2 ^ 53`, written with the smallest exponent that is allowed
for it, so that equal numbers have one form up to the sign of zero.

* `roundHalfEven` — a quotient rounded to the nearest integer, a half to the even one;
* `Binary64` — the numbers, the infinities and the number that is none;
* `Binary64.ofDecimal` — the nearest number to a decimal.
-/

/-- The integer nearest to `n / d`; of two, the even one. -/
def roundHalfEven (n d : Nat) : Nat :=
  let q := n / d
  let twice := 2 * (n % d)
  if twice < d then q
  else if twice > d then q + 1
  else if q % 2 = 0 then q else q + 1

/-- The rounded quotient is the floor or the number after it. -/
theorem roundHalfEven_eq_or (n d : Nat) :
    roundHalfEven n d = n / d ∨ roundHalfEven n d = n / d + 1 := by
  unfold roundHalfEven
  dsimp only
  split
  · exact .inl rfl
  · split
    · exact .inr rfl
    · split
      · exact .inl rfl
      · exact .inr rfl

/-- A number of double precision. -/
inductive Binary64 where
  | nan
  | infinite (negative : Bool)
  /-- `mantissa · 2 ^ exponent`, negated if `negative`. -/
  | finite (negative : Bool) (mantissa : Nat) (exponent : Int)
  deriving DecidableEq, Repr

namespace Binary64

/-- The smallest exponent of a number. -/
def minExponent : Int := -1074

/-- The largest exponent of a number. -/
def maxExponent : Int := 971

/-- The nearest number to `num / den`; `den` is not zero. -/
def ofRatio (negative : Bool) (num den : Nat) : Binary64 :=
  if num = 0 then finite negative 0 minExponent
  else
    -- The quotient has 53 or 54 binary digits at this exponent.
    let low : Int := (Nat.log2 num : Int) - Nat.log2 den - 53
    let scaled (e : Int) : Nat × Nat :=
      if e < 0 then (num * twoPow e.natAbs, den) else (num, den * twoPow e.natAbs)
    let fits : Bool := (scaled low).1 / (scaled low).2 < twoPow 53
    let e := max minExponent (if fits then low else low + 1)
    let m := roundHalfEven (scaled e).1 (scaled e).2
    let (m, e) := if m = twoPow 53 then (twoPow 52, e + 1) else (m, e)
    if maxExponent < e then infinite negative else finite negative m e

/-- The nearest number to `digits · 10 ^ exponent`. Decimals far outside of the range are not
    written out. -/
def ofDecimal (negative : Bool) (digits : Nat) (exponent : Int) : Binary64 :=
  let size : Int := (Nat.toDigits 10 digits).length + exponent
  if digits = 0 ∨ size < -400 then finite negative 0 minExponent
  else if 400 < size then infinite negative
  else if exponent < 0 then ofRatio negative digits (tenPow exponent.natAbs)
  else ofRatio negative (digits * tenPow exponent.natAbs) 1

/-- Whether a number is neither infinite nor no number. -/
def isFinite : Binary64 → Bool
  | finite _ _ _ => true
  | _ => false

/-- Equality of keys: no number equals itself, and the two zeros are equal. -/
def sameKey : Binary64 → Binary64 → Bool
  | finite s m e, finite s' m' e' => (m = 0 && m' = 0) || (s = s' && m = m' && e = e')
  | x, y => x = y

end Binary64

end ZoneSync

import ZoneSync.Decimal.Binary64

namespace ZoneSync

/-!
# The shortest decimals of a number

A finite number is written with the fewest significant digits that read back as it; of several such
decimals the nearest is taken, and the even one if two are as near.

* `Binary64.shortest` — the digits and the power of ten of the last one;
* `Binary64.toText` — the text: positional up to sixteen digits in front of the point and four zeros
  behind it, with an exponent otherwise.
-/

namespace Binary64

/-- The shortest decimals of `m · 2 ^ e` on the grids of `n`, `n + 1`, … digits, `fuel` grids at
    most; `ten` is the power of ten with `10 ^ (ten - 1) ≤ m · 2 ^ e < 10 ^ ten`. -/
def shortestFrom (m : Nat) (e ten : Int) : Nat → Nat → Nat × Int
  | 0, _ => (0, 0)
  | fuel + 1, n =>
    let grid : Int := ten - n
    -- All of `4 · m · 2 ^ e`, one unit of the last place, and one step of the grid, scaled to
    -- integers.
    let two (x : Int) : Nat := twoPow x.toNat
    let pow10 (x : Int) : Nat := tenPow x.toNat
    let unit := two e * pow10 (-grid)
    let value := 4 * m * unit
    let step := 4 * two (-e) * pow10 grid
    -- Below a power of two the numbers are twice as dense.
    let below := if m = twoPow 52 ∧ minExponent < e then unit else 2 * unit
    let inside (d : Nat) : Bool :=
      let x := d * step
      if m % 2 = 0 then value ≤ x + below && x ≤ value + 2 * unit
      else value < x + below && x < value + 2 * unit
    let low := value / step
    let lowGap := value - low * step
    let highGap := (low + 1) * step - value
    let preferLow : Bool := lowGap < highGap || (lowGap = highGap && low % 2 = 0)
    if inside low && (preferLow || !inside (low + 1)) then (low, grid)
    else if inside (low + 1) then (low + 1, grid)
    else shortestFrom m e ten fuel (n + 1)

/-- The number of decimal digits in front of the point of `m · 2 ^ e`, or less by the zeros behind
    it. -/
def decimalSize (m : Nat) (e : Int) : Int :=
  if 0 ≤ e then (Nat.toDigits 10 (m * twoPow e.toNat)).length
  else
    let whole := m / twoPow e.natAbs
    if 0 < whole then (Nat.toDigits 10 whole).length
    else
      -- `m · 2 ^ e = m · 5 ^ -e / 10 ^ -e`
      (Nat.toDigits 10 (m * Nat.pow 5 e.natAbs)).length - (e.natAbs : Int)

/-- The shortest decimal of `m · 2 ^ e`: its digits and the power of ten of the last one. -/
def shortest (m : Nat) (e : Int) : Nat × Int :=
  if m = 0 then (0, 0) else shortestFrom m e (decimalSize m e) 17 1

/-- Digits without the zeros at their end, and how many these are. -/
def dropZeros (ds : List Char) : List Char × Nat :=
  let kept := (ds.reverse.dropWhile (· = '0')).reverse
  (kept, ds.length - kept.length)

/-- The text of a positive number with the digits `ds`, the last one at `10 ^ e`. -/
def layout (ds : List Char) (e : Int) : List Char :=
  let size := ds.length
  let point : Int := size + e
  if 0 ≤ e ∧ point ≤ 16 then ds ++ List.replicate e.toNat '0' ++ ['.', '0']
  else if 0 < point ∧ point ≤ 16 then ds.take point.toNat ++ '.' :: ds.drop point.toNat
  else if -5 < point ∧ point ≤ 0 then '0' :: '.' :: List.replicate point.natAbs '0' ++ ds
  else
    let fraction := if ds.length = 1 then [] else '.' :: ds.drop 1
    let power := point - 1
    let sign := if power < 0 then ['-'] else []
    ds.take 1 ++ fraction ++ 'e' :: sign ++ Nat.toDigits 10 power.natAbs

/-- The text of a number. -/
def toText : Binary64 → String
  | nan => ".nan"
  | infinite negative => if negative then "-.inf" else ".inf"
  | finite negative m e =>
    let digits :=
      if m = 0 then "0.0".toList
      else
        let (d, power) := shortest m e
        let (ds, zeros) := dropZeros (Nat.toDigits 10 d)
        layout ds (power + zeros)
    String.ofList (if negative then '-' :: digits else digits)

end Binary64

end ZoneSync

import PolySql.Double.Basic

/-!
# The shortest decimal text of a double

`shortest` gives the fewest significant digits that read back as the same number; among the
decimals with that many digits it takes the one nearest to the number, and of two equally near ones
the one whose last digit is even.  `Double.text` lays the digits out: a number whose first digit
stands at a place from `10 ^ (-5)` to `10 ^ 15` is written with a point, any other one with an
exponent, which always has a sign.
-/

namespace PolySql

/-! ### The interval of reals that round to a double -/

/-- A positive double as `value / scale`, with the interval of the reals that round to it running
from `low / scale` to `high / scale`. -/
structure RoundingInterval where
  value : Nat
  low : Nat
  high : Nat
  scale : Nat
  closed : Bool

namespace RoundingInterval

/-- The interval of a positive finite pattern.  The gap below a power of two is half as wide as the
gap above it, and the ends belong to the interval when the significand is even. -/
def ofMagnitude (magnitude : Nat) : RoundingInterval :=
  let (n, q) := FloatFormat.double.decompose magnitude
  let narrow := n = Nat.pow 2 52 ∧ FloatFormat.double.minExponent < q
  let up := Nat.pow 2 q.toNat
  { value := 4 * n * up
    low := (4 * n - if narrow then 1 else 2) * up
    high := (4 * n + 2) * up
    scale := 4 * Nat.pow 2 (-q).toNat
    closed := n % 2 = 0 }

/-- Whether `num / den` rounds to the double of the interval. -/
def contains (r : RoundingInterval) (num den : Nat) : Bool :=
  let x := num * r.scale
  if r.closed then r.low * den ≤ x && x ≤ r.high * den
  else r.low * den < x && x < r.high * den

/-- The multiple of `num / den` nearest to the value among those in the interval, if there is
one.  Only the two multiples on either side of the value need a look: the interval is convex. -/
def nearestMultiple? (r : RoundingInterval) (num den : Nat) : Option Nat :=
  let numerator := r.value * den
  let denominator := r.scale * num
  let below := numerator / denominator
  let above := below + 1
  let belowFits := below ≠ 0 ∧ r.contains (below * num) den
  let aboveFits := r.contains (above * num) den = true
  if belowFits ∧ aboveFits then
    let twice := 2 * (numerator % denominator)
    if twice < denominator then some below
    else if denominator < twice then some above
    else some (below + below % 2)
  else if belowFits then some below
  else if aboveFits then some above
  else none

end RoundingInterval

/-! ### Choosing the digits -/

/-- The greatest `e` with `10 ^ e ≤ num / den`, for positive `num` and `den`. -/
def floorLog10 (num den : Nat) : Int :=
  let guess : Int :=
    ((Nat.toDigits 10 num).length : Int) - (Nat.toDigits 10 den).length
  let reached :=
    if 0 ≤ guess then den * Nat.pow 10 guess.toNat ≤ num
    else den ≤ num * Nat.pow 10 (-guess).toNat
  if reached then guess else guess - 1

/-- The first grid of decimals, from one significant digit upwards, that has a point in the
interval: the point over its unit `10 ^ e`, and `e`. -/
def shortestFrom (r : RoundingInterval) (leading : Int) : Nat → Nat → Nat × Int
  | 0, _ => (0, 0)
  | fuel + 1, digits =>
    let e := leading + 1 - digits
    let found :=
      if 0 ≤ e then r.nearestMultiple? (Nat.pow 10 e.toNat) 1
      else r.nearestMultiple? 1 (Nat.pow 10 (-e).toNat)
    match found with
    | some n => (n, e)
    | none => shortestFrom r leading fuel (digits + 1)

/-- The shortest decimal `n · 10 ^ e` of a positive finite pattern.  Seventeen digits always
suffice. -/
def shortest (magnitude : Nat) : Nat × Int :=
  let r := RoundingInterval.ofMagnitude magnitude
  shortestFrom r (floorLog10 r.value r.scale) 17 1

/-! ### Layout -/

/-- The digits without the zeros at their end, and the number of zeros removed. -/
def stripZeros (ds : List Char) : List Char × Nat :=
  let zeros := ds.reverse.takeWhile (· == '0')
  (ds.take (ds.length - zeros.length), zeros.length)

/-- A decimal, given by its significant digits and the place of the last one, as text. -/
def layoutDecimal (ds : List Char) (e : Int) : String :=
  let point : Int := ds.length + e
  let body :=
    if 0 ≤ e ∧ point ≤ 16 then
      ds ++ List.replicate e.toNat '0' ++ ['.', '0']
    else if 0 < point ∧ point ≤ 16 then
      ds.take point.toNat ++ ['.'] ++ ds.drop point.toNat
    else if -5 < point ∧ point ≤ 0 then
      ['0', '.'] ++ List.replicate (-point).toNat '0' ++ ds
    else
      let place := point - 1
      let exponent :=
        'e' :: (if 0 ≤ place then '+' else '-') :: Nat.toDigits 10 place.natAbs
      match ds with
      | [d] => d :: exponent
      | d :: rest => d :: '.' :: rest ++ exponent
      | [] => exponent
  String.ofList body

/-- The text of a finite number: a sign when the sign bit is set, then the shortest decimal. -/
def Double.text (x : Double) : String :=
  let sign := if x.isNegative then "-" else ""
  if x.isZero then sign ++ "0.0"
  else
    let (n, e) := shortest x.magnitude
    let (ds, zeros) := stripZeros (Nat.toDigits 10 n)
    sign ++ layoutDecimal ds (e + zeros)

example : (⟨0x3FB999999999999A⟩ : Double).text = "0.1" := by decide +kernel
example : (⟨1⟩ : Double).text = "5e-324" := by decide +kernel
example : (⟨0x4341C37937E08000⟩ : Double).text = "1e+16" := by decide +kernel
example : (⟨0x7FEFFFFFFFFFFFFF⟩ : Double).text = "1.7976931348623157e+308" := by decide +kernel
example : (⟨0xC08F400000000000⟩ : Double).text = "-1000.0" := by decide +kernel

end PolySql

import PolySql.Json.Tree

/-!
# JSON values from text

A number without point and exponent that fits into 64 bits is an integer; minus zero and every other
number is a double.  The double of a decimal is worked out in two steps, each of which rounds: the
leading digits, as many as fit into 64 bits, become a double, and this is multiplied or divided by
the double nearest to the power of ten that remains.  A decimal too large for a double is refused.
-/

namespace PolySql

/-! ### Scaling by powers of ten -/

namespace Double

/-- The double nearest to a power of ten. -/
def powerOfTen (e : Nat) : Double :=
  ofQuotient false (Nat.pow 10 e) 1

/-- The product of two finite numbers, signs left out. -/
def mulAbs (x y : Double) : Double :=
  let (xn, xd) := x.absQuotient
  let (yn, yd) := y.absQuotient
  ofQuotient false (xn * yn) (xd * yd)

/-- The quotient of two finite numbers, signs left out and the second one not zero. -/
def divAbs (x y : Double) : Double :=
  let (xn, xd) := x.absQuotient
  let (yn, yd) := y.absQuotient
  ofQuotient false (xn * yd) (xd * yn)

/-- Division by a power of ten, at most `10 ^ 308` at a time. -/
def divPowerOfTen (x : Double) (e : Nat) : Double :=
  if e ≤ 308 then x.divAbs (powerOfTen e)
  else if x.isZero then x
  else divPowerOfTen (x.divAbs (powerOfTen 308)) (e - 308)
termination_by e

/-- The double `significand · 10 ^ e`, unless it is too large. -/
def ofDecimal? (significand : Nat) (e : Int) : Option Double :=
  let x := ofQuotient false significand 1
  if e < 0 then some (x.divPowerOfTen e.natAbs)
  else if x.isZero then some x
  else if 308 < e then none
  else
    let y := x.mulAbs (powerOfTen e.natAbs)
    if y.isInfinite then none else some y

end Double

/-! ### Numbers -/

namespace Numeral

/-- The number that digits stand for. -/
def digitsValue (ds : List Char) : Nat :=
  ds.foldl (fun n c => 10 * n + (c.toNat - '0'.toNat)) 0

/-- Append digits to a number as long as it fits into 64 bits: the number, and the digits that are
left over. -/
def takeFitting (n : Nat) : List Char → Nat × List Char
  | [] => (n, [])
  | c :: cs =>
    let next := 10 * n + (c.toNat - '0'.toNat)
    if next < UInt64.size then takeFitting next cs else (n, c :: cs)

/-- Whether a number has neither point nor exponent. -/
def isInteger (n : Numeral) : Bool :=
  n.fraction.isEmpty && n.exponent.isNone

/-- The value of the exponent, zero when there is none. -/
def exponentValue (n : Numeral) : Int :=
  match n.exponent with
  | none => 0
  | some (false, ds) => digitsValue ds
  | some (true, ds) => -(digitsValue ds : Int)

/-- The number that a numeral stands for, unless it is too large. -/
def toNumber? (n : Numeral) : Option JsonNumber :=
  let (whole, wholeLeft) := takeFitting 0 n.whole
  if n.isInteger && wholeLeft.isEmpty && !n.negative then
    some (.natural (UInt64.ofNat whole))
  else if n.isInteger && wholeLeft.isEmpty && whole ≠ 0 &&
      whole ≤ 0x8000_0000_0000_0000 then
    some (.negative (Int64.ofInt (-(whole : Int))))
  else
    let (significand, fractionLeft) := takeFitting whole n.fraction
    let places : Int := n.fraction.length - fractionLeft.length
    let e := wholeLeft.length - places + n.exponentValue
    (Double.ofDecimal? significand e).map fun x =>
      .double (Double.ofMagnitude n.negative x.magnitude)

end Numeral

/-! ### Values -/

namespace Json

mutual

/-- The value of a tree, if its numbers fit and its strings are made of characters. -/
def ofTree? : JsonTree → Option Json
  | .null => some .null
  | .bool b => some (.bool b)
  | .number n => n.toNumber?.map .number
  | .string s => s.map .string
  | .array items => (ofItems? items).map .array
  | .object members => (ofTreeMembers? members).map ofMembers

/-- The values of the items of an array. -/
def ofItems? : List JsonTree → Option (List Json)
  | [] => some []
  | x :: xs => do return (← ofTree? x) :: (← ofItems? xs)

/-- The members of an object, in the order of the text. -/
def ofTreeMembers? : List (Option String × JsonTree) → Option (List (String × Json))
  | [] => some []
  | (k, x) :: xs => do return (← k, ← ofTree? x) :: (← ofTreeMembers? xs)

end

/-- The value that a text stands for. -/
def ofText? (s : String) : Option Json :=
  (JsonTree.ofText? s).bind ofTree?

end Json

end PolySql

import PolySql.Double.Rounding

/-!
# Double-precision numbers

A `Double` is its 64-bit pattern, so that every not-a-number keeps its payload and the two zeros
stay apart.  Numerical comparison is `same`, under which a not-a-number differs from everything and
the two zeros agree; equality of patterns is `=`.
-/

namespace PolySql

/-- A double-precision floating-point number, as its bits. -/
structure Double where
  bits : UInt64
  deriving DecidableEq, Repr, Inhabited

namespace Double

/-! ### Classes -/

/-- Whether the sign bit is set. -/
def isNegative (x : Double) : Bool :=
  FloatFormat.double.signBit ≤ x.bits.toNat

/-- The pattern without its sign bit. -/
def magnitude (x : Double) : Nat :=
  x.bits.toNat % FloatFormat.double.signBit

/-- Whether the pattern stands for no number. -/
def isNaN (x : Double) : Bool :=
  FloatFormat.double.infinity < x.magnitude

/-- Whether the number is one of the two infinities. -/
def isInfinite (x : Double) : Bool :=
  x.magnitude == FloatFormat.double.infinity

/-- Whether the number is one of the two zeros. -/
def isZero (x : Double) : Bool :=
  x.magnitude == 0

/-- Numerical equality. -/
def same (x y : Double) : Bool :=
  !x.isNaN && !y.isNaN && (x.bits == y.bits || (x.isZero && y.isZero))

/-! ### Making numbers -/

/-- A magnitude with a sign. -/
def ofMagnitude (negative : Bool) (magnitude : Nat) : Double :=
  ⟨UInt64.ofNat (if negative then FloatFormat.double.signBit + magnitude else magnitude)⟩

/-- The number nearest to a quotient, with a sign. -/
def ofQuotient (negative : Bool) (num den : Nat) : Double :=
  ofMagnitude negative (FloatFormat.double.nearest num den)

/-- The number nearest to an integer. -/
def ofInt (i : Int) : Double :=
  ofQuotient (i < 0) i.natAbs 1

/-- The absolute value of a finite number as a quotient. -/
def absQuotient (x : Double) : Nat × Nat :=
  let (n, q) := FloatFormat.double.decompose x.magnitude
  if 0 ≤ q then (n * Nat.pow 2 q.toNat, 1) else (n, Nat.pow 2 (-q).toNat)

/-- Whether a number is finite and exactly the given integer; both zeros are the integer zero. -/
def isInteger (x : Double) (i : Int) : Bool :=
  let (num, den) := x.absQuotient
  !x.isNaN && !x.isInfinite && num == i.natAbs * den && (i == 0 || x.isNegative == decide (i < 0))

/-! ### Narrowing -/

/-- The 32-bit pattern nearest to a number.  A not-a-number keeps its sign and the leading bits of
its payload, and is made quiet. -/
def toSingle (x : Double) : UInt32 :=
  let sign := if x.isNegative then FloatFormat.single.signBit else 0
  let pattern :=
    if x.isNaN then
      FloatFormat.single.infinity ||| 0x40_0000 ||| (x.magnitude % Nat.pow 2 52) / Nat.pow 2 29
    else if x.isInfinite then FloatFormat.single.infinity
    else
      let (num, den) := x.absQuotient
      FloatFormat.single.nearest num den
  UInt32.ofNat (sign + pattern)

/-- The 32-bit pattern nearest to an integer. -/
def singleOfInt (i : Int) : UInt32 :=
  let sign := if i < 0 then FloatFormat.single.signBit else 0
  UInt32.ofNat (sign + FloatFormat.single.nearest i.natAbs 1)

example : (⟨0x3FB999999999999A⟩ : Double).toSingle = 0x3DCCCCCD := by decide
example : same ⟨0⟩ ⟨0x8000000000000000⟩ = true := by decide
example : isInteger ⟨0x8000000000000000⟩ 0 = true := by decide +kernel
example : isInteger ⟨0x4340000000000000⟩ 9007199254740993 = false := by decide
example : same ⟨0x7FF8000000000000⟩ ⟨0x7FF8000000000000⟩ = false := by decide

end Double

end PolySql

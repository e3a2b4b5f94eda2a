/-!
# Rounding to a binary floating-point format

A format has some stored significand bits and some exponent bits.  A finite number of the format is
`n · 2 ^ q` with `n < 2 ^ (significandBits + 1)` and `q` not below `minExponent`, and its pattern is
`(q - minExponent) · 2 ^ significandBits + n` below the sign bit, for the least such `q`.  `nearest`
gives the pattern of the number of the format that is nearest to a quotient of natural numbers; a
quotient half way between two neighbours goes to the one with the even `n`, and one beyond the
largest finite number goes to infinity.
-/

namespace PolySql

/-- The widths of the two fields of a binary floating-point pattern below its sign bit. -/
structure FloatFormat where
  significandBits : Nat
  exponentBits : Nat
  deriving DecidableEq, Repr

namespace FloatFormat

/-- The format of 64 bits. -/
def double : FloatFormat := ⟨52, 11⟩

/-- The format of 32 bits. -/
def single : FloatFormat := ⟨23, 8⟩

/-- The exponent of the subnormal numbers and of the smallest normal ones. -/
def minExponent (f : FloatFormat) : Int :=
  2 - (Nat.pow 2 (f.exponentBits - 1) : Nat) - f.significandBits

/-- The pattern of infinity, which is the least one that is not finite. -/
def infinity (f : FloatFormat) : Nat :=
  (Nat.pow 2 f.exponentBits - 1) * Nat.pow 2 f.significandBits

/-- The pattern of the sign alone. -/
def signBit (f : FloatFormat) : Nat :=
  Nat.pow 2 (f.significandBits + f.exponentBits)

end FloatFormat

/-! ### Rounding a quotient -/

/-- The integer nearest to `num / den`, of two equally near ones the even one. -/
def roundHalfEven (num den : Nat) : Nat :=
  let quotient := num / den
  let twice := 2 * (num % den)
  if twice < den then quotient
  else if den < twice then quotient + 1
  else quotient + quotient % 2

/-- The greatest `e` with `2 ^ e ≤ num / den`, for positive `num` and `den`. -/
def floorLog2 (num den : Nat) : Int :=
  let guess : Int := (Nat.log2 num : Int) - Nat.log2 den
  let reached :=
    if 0 ≤ guess then den * Nat.pow 2 guess.toNat ≤ num
    else den ≤ num * Nat.pow 2 (-guess).toNat
  if reached then guess else guess - 1

namespace FloatFormat

/-- The pattern, sign left out, of the number of the format nearest to `num / den`. -/
def nearest (f : FloatFormat) (num den : Nat) : Nat :=
  if num = 0 then 0
  else
    let q := max (floorLog2 num den - f.significandBits) f.minExponent
    let n :=
      if 0 ≤ q then roundHalfEven num (den * Nat.pow 2 q.toNat)
      else roundHalfEven (num * Nat.pow 2 (-q).toNat) den
    min ((q - f.minExponent).toNat * Nat.pow 2 f.significandBits + n) f.infinity

/-- The `(n, q)` with `n · 2 ^ q` the absolute value of a finite pattern. -/
def decompose (f : FloatFormat) (pattern : Nat) : Nat × Int :=
  let fraction := pattern % Nat.pow 2 f.significandBits
  let exponent := pattern / Nat.pow 2 f.significandBits % Nat.pow 2 f.exponentBits
  if exponent = 0 then (fraction, f.minExponent)
  else (Nat.pow 2 f.significandBits + fraction, f.minExponent + exponent - 1)

end FloatFormat

example : FloatFormat.double.nearest 1 1 = 0x3FF0000000000000 := by decide
example : FloatFormat.double.nearest 1 10 = 0x3FB999999999999A := by decide
example : FloatFormat.single.nearest 16777217 1 = 0x4B800000 := by decide

end PolySql

import PolySql.Timestamp.Basic

/-!
# Timestamps as text

`Timestamp.text` writes `YYYY-MM-DD hh:mm:ss` and, unless it is zero, the fraction of the second
with 3, 6 or 9 digits.  A year from 0 to 9999 has four digits, any other one a sign and at least
four.  The seconds go on by one in a leap second, so that one behind second 59 is second 60.
-/

namespace PolySql

/-- The digits of a number, with zeros in front up to the given width. -/
def padded (width n : Nat) : List Char :=
  let ds := Nat.toDigits 10 n
  List.replicate (width - ds.length) '0' ++ ds

namespace Timestamp

/-- The year, signed when it does not have four digits. -/
def yearText (year : Int) : List Char :=
  if 0 ≤ year ∧ year ≤ 9999 then padded 4 year.natAbs
  else (if year < 0 then '-' else '+') :: padded 4 year.natAbs

/-- The fraction of the second with the fewest of 0, 3, 6 and 9 digits. -/
def fractionText (nanosecond : Nat) : List Char :=
  let fraction := nanosecond % 1_000_000_000
  if fraction = 0 then []
  else if fraction % 1_000_000 = 0 then '.' :: padded 3 (fraction / 1_000_000)
  else if fraction % 1_000 = 0 then '.' :: padded 6 (fraction / 1_000)
  else '.' :: padded 9 fraction

/-- The characters of a timestamp. -/
def chars (t : Timestamp) : List Char :=
  yearText t.year ++ '-' :: padded 2 t.month ++ '-' :: padded 2 t.day ++
    ' ' :: padded 2 t.hour ++ ':' :: padded 2 t.minute ++
    ':' :: padded 2 (t.second + t.nanosecond / 1_000_000_000) ++ fractionText t.nanosecond

/-- A timestamp as text. -/
def text (t : Timestamp) : String :=
  String.ofList t.chars

end Timestamp

end PolySql

/-!
# Hexadecimal text

Each byte is written as two lower-case digits.  Reading accepts digits of either case and refuses
everything else, an odd number of digits included.
-/

namespace PolySql.Hex

/-- The lower-case digit of a number below sixteen. -/
def digit (n : Nat) : Char :=
  if n < 10 then Char.ofNat ('0'.toNat + n) else Char.ofNat ('a'.toNat + (n - 10))

/-- The number that a digit stands for. -/
def digitValue? (c : Char) : Option Nat :=
  if '0' ≤ c ∧ c ≤ '9' then some (c.toNat - '0'.toNat)
  else if 'a' ≤ c ∧ c ≤ 'f' then some (c.toNat - 'a'.toNat + 10)
  else if 'A' ≤ c ∧ c ≤ 'F' then some (c.toNat - 'A'.toNat + 10)
  else none

/-- The two digits of a byte. -/
def byteDigits (b : UInt8) : List Char :=
  [digit (b.toNat / 16), digit (b.toNat % 16)]

/-- The digits of a sequence of bytes. -/
def digits (bytes : List UInt8) : List Char :=
  bytes.flatMap byteDigits

/-- The text of a sequence of bytes. -/
def encode (bytes : List UInt8) : String :=
  String.ofList (digits bytes)

/-- The bytes that a sequence of digits stands for, two digits a byte. -/
def bytes? : List Char → Option (List UInt8)
  | [] => some []
  | [_] => none
  | hi :: lo :: rest => do
    let h ← digitValue? hi
    let l ← digitValue? lo
    let bytes ← bytes? rest
    return UInt8.ofNat (16 * h + l) :: bytes

/-- The bytes that a text stands for. -/
def decode? (s : String) : Option (List UInt8) :=
  bytes? s.toList

/-- The last `count` hexadecimal digits of a number, the most significant one first. -/
def fixed (count n : Nat) : List Char :=
  (List.range count).reverse.map fun i => digit (n / Nat.pow 16 i % 16)

/-- The number that a non-empty sequence of digits stands for. -/
def number? (cs : List Char) : Option Nat :=
  if cs.isEmpty then none
  else cs.foldlM (fun n c => (digitValue? c).map (16 * n + ·)) 0

example : encode [0x0F, 0xFF, 0x00, 0x7A] = "0fff007a" := by decide
example : decode? "0Fff" = some [15, 255] := by decide
example : decode? "0ff" = none := by decide

end PolySql.Hex

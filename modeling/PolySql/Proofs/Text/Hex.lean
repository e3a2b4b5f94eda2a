import Mathlib.Data.List.Basic
import PolySql.Text.Hex

/-!
# Bytes as hexadecimal text

The text of a sequence of bytes has two lower-case digits for each of them and is read back as the
same bytes (`Hex.writes_encode`), so no two sequences have one text.
-/

namespace PolySql.Hex

/-- A text that stands for a sequence of bytes, with two lower-case digits for each of them. -/
structure Writes (s : String) (bytes : List UInt8) : Prop where
  length : s.length = 2 * bytes.length
  lowerCase : ∀ c ∈ s.toList, ('0' ≤ c ∧ c ≤ '9') ∨ ('a' ≤ c ∧ c ≤ 'f')
  reads : decode? s = some bytes

/-! ### Digits -/

theorem digitValue?_digit {n : Nat} (h : n < 16) : digitValue? (digit n) = some n := by
  have hall : ∀ m : Fin 16, digitValue? (digit m) = some m.val := by decide
  exact hall ⟨n, h⟩

theorem lowerCase_digit {n : Nat} (h : n < 16) :
    ('0' ≤ digit n ∧ digit n ≤ '9') ∨ ('a' ≤ digit n ∧ digit n ≤ 'f') := by
  have hall : ∀ m : Fin 16,
      ('0' ≤ digit m ∧ digit m ≤ '9') ∨ ('a' ≤ digit m ∧ digit m ≤ 'f') := by decide
  exact hall ⟨n, h⟩

/-- Both halves of a byte are digits. -/
theorem halves_lt (b : UInt8) : b.toNat / 16 < 16 ∧ b.toNat % 16 < 16 := by
  have hlt := b.toNat_lt
  omega

/-! ### Texts -/

theorem digits_cons (b : UInt8) (bytes : List UInt8) :
    digits (b :: bytes) = digit (b.toNat / 16) :: digit (b.toNat % 16) :: digits bytes := rfl

theorem length_digits (bytes : List UInt8) : (digits bytes).length = 2 * bytes.length := by
  induction bytes with
  | nil => rfl
  | cons b bytes ih =>
    rw [digits_cons, List.length_cons, List.length_cons, ih, List.length_cons]
    omega

theorem lowerCase_of_mem_digits {bytes : List UInt8} {c : Char} (h : c ∈ digits bytes) :
    ('0' ≤ c ∧ c ≤ '9') ∨ ('a' ≤ c ∧ c ≤ 'f') := by
  obtain ⟨b, -, hc⟩ := List.mem_flatMap.mp h
  obtain ⟨hhigh, hlow⟩ := halves_lt b
  rcases List.mem_pair.mp hc with rfl | rfl
  · exact lowerCase_digit hhigh
  · exact lowerCase_digit hlow

/-- The digits of bytes are read two by two. -/
theorem bytes?_digits (bytes : List UInt8) : bytes? (digits bytes) = some bytes := by
  induction bytes with
  | nil => rfl
  | cons b bytes ih =>
    obtain ⟨hhigh, hlow⟩ := halves_lt b
    have hbyte : 16 * (b.toNat / 16) + b.toNat % 16 = b.toNat := Nat.div_add_mod b.toNat 16
    rw [digits_cons, bytes?, digitValue?_digit hhigh, digitValue?_digit hlow, ih]
    change some (UInt8.ofNat (16 * (b.toNat / 16) + b.toNat % 16) :: bytes) = some (b :: bytes)
    rw [hbyte, UInt8.ofNat_toNat]

theorem decode?_encode (bytes : List UInt8) : decode? (encode bytes) = some bytes := by
  rw [decode?, encode, String.toList_ofList, bytes?_digits]

theorem writes_encode (bytes : List UInt8) : Writes (encode bytes) bytes where
  length := by rw [encode, String.length_ofList, length_digits]
  lowerCase c hc := by
    rw [encode, String.toList_ofList] at hc
    exact lowerCase_of_mem_digits hc
  reads := decode?_encode bytes

end PolySql.Hex

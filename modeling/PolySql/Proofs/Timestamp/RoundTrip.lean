import Mathlib.Algebra.Group.Nat.Defs
import PolySql.Timestamp.Reader

/-!
# Timestamps read back

A number with zeros in front is read back wherever it fills its width or something other than a
digit follows (`readNumber_append`), and so is every part of a timestamp in its place
(`ofCharsWith?_chars`).  Only the fraction tells the two forms apart: a whole second is read in the
first one already, and every other timestamp in the second.

A timestamp that counts through a leap second behind another second than 59 is written like one of
the next second, and only that one is read (`ofText?_text`).
-/

namespace PolySql

open Timestamp

/-! ### Numbers with zeros in front -/

theorem isDigit_of_mem_padded {width n : Nat} {c : Char} (h : c ∈ padded width n) :
    isDigit c = true := by
  rcases List.mem_append.mp h with h | h
  · rw [List.eq_of_mem_replicate h]
    decide
  · exact Nat.isDigit_of_mem_toDigits (by decide) (by decide) h

theorem padded_ne_nil (width n : Nat) : padded width n ≠ [] :=
  List.append_ne_nil_of_right_ne_nil _ (List.ne_nil_of_length_pos Nat.length_toDigits_pos)

theorem exists_padded_eq_cons (width n : Nat) :
    ∃ d ds, padded width n = d :: ds ∧ isDigit d = true := by
  obtain ⟨d, ds, hds⟩ := List.exists_cons_of_ne_nil (padded_ne_nil width n)
  exact ⟨d, ds, hds, isDigit_of_mem_padded (hds ▸ List.mem_cons_self)⟩

/-- A number that fits its width fills it. -/
theorem length_padded {width n : Nat} (hwidth : 0 < width) (h : n < 10 ^ width) :
    (padded width n).length = width := by
  have hle : (Nat.toDigits 10 n).length ≤ width :=
    (Nat.length_toDigits_le_iff (by decide) hwidth).mpr h
  rw [padded, List.length_append, List.length_replicate]
  omega

theorem digitsValue_padded (width n : Nat) : digitsValue (padded width n) = n := by
  change Nat.ofDigitChars 10 (padded width n) 0 = n
  rw [padded, Nat.ofDigitChars_append, Nat.ofDigitChars_replicate_zero]
  simp [Nat.ofDigitChars_ten_toDigits]

namespace Timestamp

/-- A text that no digit starts. -/
def EndsNumber (rest : List Char) : Prop :=
  ∀ c ∈ rest.head?, isDigit c = false

theorem EndsNumber.cons {c : Char} (h : isDigit c = false) (rest : List Char) :
    EndsNumber (c :: rest) := by
  rintro d hd
  rwa [← Option.mem_some_iff.mp hd]

/-- Digits are taken as far as they go, or as far as they may. -/
theorem takeDigits_append {limit : Nat} {ds rest : List Char} (hdigits : ∀ c ∈ ds, isDigit c = true)
    (hlength : ds.length ≤ limit) (hend : ds.length = limit ∨ EndsNumber rest) :
    takeDigits limit (ds ++ rest) = (ds, rest) := by
  have hrest : (rest.take (limit - ds.length)).takeWhile isDigit = [] := by
    rcases hend with hfull | hend
    · rw [hfull, Nat.sub_self]
      rfl
    · cases rest with
      | nil => rw [List.take_nil, List.takeWhile_nil]
      | cons c rest =>
        have hc : isDigit c = false := hend c rfl
        cases limit - ds.length with
        | zero => rfl
        | succ k => simp [hc]
  have htake : ((ds ++ rest).take limit).takeWhile isDigit = ds := by
    rw [List.take_append, List.take_of_length_le hlength, List.takeWhile_append_of_pos hdigits,
      hrest, List.append_nil]
  rw [takeDigits, htake, List.drop_left]

theorem readNumber_append {limit : Nat} {ds rest : List Char} (hne : ds ≠ [])
    (hdigits : ∀ c ∈ ds, isDigit c = true) (hlength : ds.length ≤ limit)
    (hend : ds.length = limit ∨ EndsNumber rest) :
    readNumber limit (ds ++ rest) = some (digitsValue ds, rest) := by
  rw [readNumber, takeDigits_append hdigits hlength hend]
  cases ds with
  | nil => exact absurd rfl hne
  | cons d ds => rfl

theorem readNumber_padded {limit width n : Nat} {rest : List Char}
    (hlength : (padded width n).length ≤ limit)
    (hend : (padded width n).length = limit ∨ EndsNumber rest) :
    readNumber limit (padded width n ++ rest) = some (n, rest) := by
  rw [readNumber_append (padded_ne_nil width n) (fun c => isDigit_of_mem_padded) hlength hend,
    digitsValue_padded]

/-! ### The parts -/

/-- A digit is not blank. -/
theorem isBlank_of_isDigit {c : Char} (h : isDigit c = true) : Text.isBlank c = false := by
  have hc : 48 ≤ c.toNat ∧ c.toNat ≤ 57 := by
    simpa [isDigit, Char.le_def, UInt32.le_iff_toNat_le] using h
  simp [Text.isBlank, Text.blankRanges]
  omega

theorem trimStart_padded (width n : Nat) (rest : List Char) :
    Text.trimStart (padded width n ++ rest) = padded width n ++ rest := by
  obtain ⟨d, ds, hds, hd⟩ := exists_padded_eq_cons width n
  rw [hds, Text.trimStart, List.cons_append,
    List.dropWhile_cons_of_neg (by simp [isBlank_of_isDigit hd])]

theorem readPair_padded {n : Nat} (h : n < 100) (rest : List Char) :
    readPair (padded 2 n ++ rest) = some (n, rest) := by
  have hlength : (padded 2 n).length = 2 := length_padded (by decide) h
  rw [readPair, trimStart_padded, readNumber_padded (Nat.le_of_eq hlength) (.inl hlength)]

/-- A pair may have a blank in front of it. -/
theorem readPair_blank (cs : List Char) : readPair (' ' :: cs) = readPair cs := rfl

theorem expect_self (c : Char) (rest : List Char) : expect c (c :: rest) = some rest :=
  if_pos rfl

theorem readYear_minus (cs : List Char) : readYear ('-' :: cs) =
    (readNumber cs.length cs).map fun number => (-(number.1 : Int), number.2) := rfl

theorem readYear_plus (cs : List Char) : readYear ('+' :: cs) =
    (readNumber cs.length cs).map fun number => ((number.1 : Int), number.2) := rfl

/-- A year without a sign has four digits, so the limit on such years cuts none of them. -/
theorem readYear_yearText (year : Int) {rest : List Char} (hrest : EndsNumber rest) :
    readYear (yearText year ++ rest) = some (year, rest) := by
  unfold yearText
  split
  · rename_i hyear
    have hlength : (padded 4 year.natAbs).length = 4 := length_padded (by decide) (by omega)
    have hsign (c : Char) (cs : List Char) (hc : padded 4 year.natAbs ++ rest = c :: cs) :
        isDigit c = true := by
      obtain ⟨d, ds, hds, hd⟩ := exists_padded_eq_cons 4 year.natAbs
      rw [hds] at hc
      rwa [← (List.cons.inj hc).1]
    rw [readYear, trimStart_padded]
    split
    · rename_i after hminus
      exact absurd (hsign '-' after hminus) (by decide)
    · rename_i after hplus
      exact absurd (hsign '+' after hplus) (by decide)
    · rw [readNumber_padded (Nat.le_of_eq hlength) (.inl hlength), Option.map_some]
      dsimp only
      rw [Int.natAbs_of_nonneg hyear.1]
  · have hnumber : readNumber (padded 4 year.natAbs ++ rest).length (padded 4 year.natAbs ++ rest) =
        some (year.natAbs, rest) :=
      readNumber_padded (by simp) (.inr hrest)
    split
    · rw [List.cons_append, readYear_minus, hnumber, Option.map_some,
        ← Int.eq_neg_natAbs_of_nonpos (by omega)]
    · rw [List.cons_append, readYear_plus, hnumber, Option.map_some,
        Int.natAbs_of_nonneg (by omega)]

/-- Digits after a point stand for as many nanoseconds as if they were followed by zeros. -/
theorem readFraction_padded {width n : Nat} (hwidth : 0 < width) (hnine : width ≤ 9)
    (h : n < 10 ^ width) :
    readFraction ('.' :: padded width n) = some (n * 10 ^ (9 - width)) := by
  have hlength : (padded width n).length = width := length_padded hwidth h
  have hdigits : (padded width n).all isDigit = true :=
    List.all_eq_true.mpr fun c => isDigit_of_mem_padded
  have hvalue : fractionValue (padded width n) = n * 10 ^ (9 - width) := by
    rw [fractionValue, List.take_of_length_le (by omega), digitsValue_padded, hlength]
    rfl
  rw [readFraction, hdigits, hvalue, if_pos]
  simpa using padded_ne_nil width n

theorem readFraction_fractionText (nanosecond : Nat) :
    readFraction (fractionText nanosecond) = some (nanosecond % 1_000_000_000) := by
  have hlt : nanosecond % 1_000_000_000 < 1_000_000_000 := Nat.mod_lt _ (by decide)
  unfold fractionText
  generalize nanosecond % 1_000_000_000 = fraction at hlt ⊢
  dsimp only
  split
  · rename_i hzero
    rw [readFraction, hzero]
  split
  · rename_i hmillis
    rw [readFraction_padded (by decide) (by decide) (by omega)]
    exact congrArg some (Nat.div_mul_cancel (Nat.dvd_of_mod_eq_zero hmillis))
  split
  · rename_i hmicros
    rw [readFraction_padded (by decide) (by decide) (by omega)]
    exact congrArg some (Nat.div_mul_cancel (Nat.dvd_of_mod_eq_zero hmicros))
  · rw [readFraction_padded (by decide) (by decide) hlt]
    exact congrArg some (Nat.mul_one fraction)

theorem readEnd_fractionText (nanosecond : Nat) :
    readEnd (fractionText nanosecond) =
      if nanosecond % 1_000_000_000 = 0 then some 0 else none := by
  unfold fractionText
  generalize nanosecond % 1_000_000_000 = fraction
  dsimp only
  split
  · rfl
  split
  · rfl
  split <;> rfl

/-! ### The whole text -/

theorem daysInMonth_le (year : Int) (month : Nat) : daysInMonth year month ≤ 31 := by
  unfold daysInMonth
  split
  · split <;> decide
  all_goals decide

/-- Whether a timestamp is at most in a leap second at the end of a minute. -/
def IsRegular (t : Timestamp) : Prop :=
  t.nanosecond < 1_000_000_000 ∨ t.second = 59

instance (t : Timestamp) : Decidable t.IsRegular :=
  inferInstanceAs (Decidable (_ ∨ _))

theorem nanosecond_of_not_isRegular {t : Timestamp} (h : ¬ t.IsRegular) :
    1_000_000_000 ≤ t.nanosecond ∧ t.second < 59 := by
  have hsecond := t.isMoment.second_lt
  unfold IsRegular at h
  omega

/-- The regular timestamp that is written alike: a leap second behind another second than 59 counts
as the next second. -/
def regular (t : Timestamp) : Timestamp :=
  if h : t.IsRegular then t
  else
    { t with
      second := t.second + 1
      nanosecond := t.nanosecond - 1_000_000_000
      isMoment :=
        { t.isMoment with
          second_lt := by
            have hleap := nanosecond_of_not_isRegular h
            omega
          nanosecond_lt := Nat.lt_of_le_of_lt (Nat.sub_le ..) t.isMoment.nanosecond_lt } }

theorem isRegular_regular (t : Timestamp) : t.regular.IsRegular := by
  unfold regular
  split
  · assumption
  · have hnanosecond := t.isMoment.nanosecond_lt
    exact .inl (by dsimp only; omega)

theorem regular_eq_self_iff {t : Timestamp} : t.regular = t ↔ t.IsRegular := by
  constructor
  · intro h
    rw [← h]
    exact t.isRegular_regular
  · exact fun h => dif_pos h

/-- The second and the nanosecond count alike in both. -/
theorem chars_regular (t : Timestamp) : t.regular.chars = t.chars := by
  unfold regular
  split
  · rfl
  · rename_i h
    obtain ⟨hleap, -⟩ := nanosecond_of_not_isRegular h
    have hnanosecond := t.isMoment.nanosecond_lt
    have hseconds : t.second + 1 + (t.nanosecond - 1_000_000_000) / 1_000_000_000 =
        t.second + t.nanosecond / 1_000_000_000 := by omega
    have hfraction : (t.nanosecond - 1_000_000_000) % 1_000_000_000 =
        t.nanosecond % 1_000_000_000 := by omega
    simp only [chars, fractionText, hseconds, hfraction]

/-- All that a reader makes of the text of a regular timestamp depends on what it makes of the
fraction.  The second is written as 60 exactly in a leap second, and the nanosecond counts on from 59
then. -/
theorem ofCharsWith?_chars (fraction? : List Char → Option Nat) {t : Timestamp}
    (h : t.IsRegular) :
    ofCharsWith? fraction? t.chars = (fraction? (fractionText t.nanosecond)).bind fun fraction =>
      of? t.year t.month t.day t.hour t.minute t.second
        (t.nanosecond / 1_000_000_000 * 1_000_000_000 + fraction) := by
  obtain ⟨-, ⟨-, hmonth⟩, ⟨-, hday⟩, hhour, hminute, hsecond, hnanosecond⟩ := t.isMoment
  have hdays : daysInMonth t.year t.month ≤ 31 := daysInMonth_le t.year t.month
  have hyearText (rest : List Char) :
      readYear (yearText t.year ++ '-' :: rest) = some (t.year, '-' :: rest) :=
    readYear_yearText t.year (.cons (by decide) rest)
  have hpairs : t.month < 100 ∧ t.day < 100 ∧ t.hour < 100 ∧ t.minute < 100 ∧
      t.second + t.nanosecond / 1_000_000_000 < 100 := by omega
  obtain ⟨hmonth', hday', hhour', hminute', hsecond'⟩ := hpairs
  simp only [chars, List.append_assoc, List.cons_append]
  simp only [ofCharsWith?, Option.bind_eq_bind, Option.bind_some, expect_self, readPair_blank,
    hyearText, readPair_padded hmonth', readPair_padded hday', readPair_padded hhour',
    readPair_padded hminute', readPair_padded hsecond']
  congr 1
  funext fraction
  -- the second is written as 60 in a leap second, and only then
  by_cases hleap : t.nanosecond < 1_000_000_000
  · rw [if_neg (by omega), Nat.div_eq_of_lt hleap, Nat.zero_mul, Nat.zero_add, Nat.add_zero]
  · have hlast : t.second = 59 := h.resolve_left hleap
    have hone : t.nanosecond / 1_000_000_000 = 1 := by omega
    rw [hone, hlast, if_pos rfl, Nat.one_mul]

theorem of?_self (t : Timestamp) :
    of? t.year t.month t.day t.hour t.minute t.second t.nanosecond = some t := by
  rw [of?, dif_pos t.isMoment]

section Regular

variable {t : Timestamp} (h : t.IsRegular)

include h

/-- The form without a fraction takes exactly the whole seconds. -/
theorem ofCharsWith?_readEnd : ofCharsWith? readEnd t.chars =
    if t.nanosecond % 1_000_000_000 = 0 then some t else none := by
  rw [ofCharsWith?_chars _ h, readEnd_fractionText]
  split
  · rename_i hwhole
    rw [Option.bind_some, Nat.add_zero, Nat.div_mul_cancel (Nat.dvd_of_mod_eq_zero hwhole),
      of?_self]
  · rfl

/-- The form with a fraction takes every regular timestamp. -/
theorem ofCharsWith?_readFraction : ofCharsWith? readFraction t.chars = some t := by
  rw [ofCharsWith?_chars _ h, readFraction_fractionText, Option.bind_some, Nat.div_add_mod',
    of?_self]

theorem ofChars?_chars : ofChars? t.chars = some t := by
  rw [ofChars?, ofCharsWith?_readEnd h, ofCharsWith?_readFraction h]
  split <;> rfl

end Regular

/-- **A timestamp is read back from its text as the regular one that is written alike.** -/
theorem ofText?_text (t : Timestamp) : ofText? t.text = some t.regular := by
  rw [ofText?, text, String.toList_ofList, ← t.chars_regular, ofChars?_chars t.isRegular_regular]

end Timestamp

end PolySql

/-!
# Timestamps

A timestamp is a date of the proleptic Gregorian calendar and a time of day, without a time zone.
Its nanosecond counts from the start of its second and goes on through a leap second behind it, up
to 2 000 000 000.  Leap seconds stand at the end of a minute, behind second 59, but a timestamp may
count through one behind any second.
-/

namespace PolySql

/-! ### The calendar -/

/-- Whether a year has 366 days. -/
def isLeapYear (year : Int) : Bool :=
  year % 4 = 0 && (year % 100 ≠ 0 || year % 400 = 0)

/-- The number of days of a month. -/
def daysInMonth (year : Int) (month : Nat) : Nat :=
  match month with
  | 2 => if isLeapYear year then 29 else 28
  | 4 | 6 | 9 | 11 => 30
  | _ => 31

/-- The days from 1 January of year 1 to 1 January of a year. -/
def daysBeforeYear (year : Int) : Int :=
  let past := year - 1
  365 * past + past / 4 - past / 100 + past / 400

/-- The days of a year before a month. -/
def daysBeforeMonth (year : Int) : Nat → Nat
  | 0 | 1 => 0
  | month + 2 => daysBeforeMonth year (month + 1) + daysInMonth year (month + 1)

/-! ### The type -/

/-- Whether seven numbers name a moment. -/
structure IsMoment (year : Int) (month day hour minute second nanosecond : Nat) : Prop where
  year_mem : -262143 ≤ year ∧ year ≤ 262142
  month_mem : 1 ≤ month ∧ month ≤ 12
  day_mem : 1 ≤ day ∧ day ≤ daysInMonth year month
  hour_lt : hour < 24
  minute_lt : minute < 60
  second_lt : second < 60
  nanosecond_lt : nanosecond < 2_000_000_000

instance (year : Int) (month day hour minute second nanosecond : Nat) :
    Decidable (IsMoment year month day hour minute second nanosecond) :=
  decidable_of_iff
    ((-262143 ≤ year ∧ year ≤ 262142) ∧ (1 ≤ month ∧ month ≤ 12) ∧
      (1 ≤ day ∧ day ≤ daysInMonth year month) ∧ hour < 24 ∧ minute < 60 ∧ second < 60 ∧
      nanosecond < 2_000_000_000)
    ⟨fun ⟨a, b, c, d, e, f, g⟩ => ⟨a, b, c, d, e, f, g⟩,
      fun ⟨a, b, c, d, e, f, g⟩ => ⟨a, b, c, d, e, f, g⟩⟩

/-- A date and a time of day. -/
structure Timestamp where
  year : Int
  month : Nat
  day : Nat
  hour : Nat
  minute : Nat
  second : Nat
  nanosecond : Nat
  isMoment : IsMoment year month day hour minute second nanosecond := by decide
  deriving DecidableEq

namespace Timestamp

/-- The timestamp of seven numbers, if they name a moment. -/
def of? (year : Int) (month day hour minute second nanosecond : Nat) : Option Timestamp :=
  if h : IsMoment year month day hour minute second nanosecond then
    some { year, month, day, hour, minute, second, nanosecond, isMoment := h }
  else none

/-! ### Distance -/

/-- The days from 1 January of year 1 to the timestamp's date. -/
def dayNumber (t : Timestamp) : Int :=
  daysBeforeYear t.year + daysBeforeMonth t.year t.month + (t.day - 1 : Nat)

/-- The nanoseconds from the start of 1 January of year 1. -/
def nanosecondNumber (t : Timestamp) : Int :=
  (t.dayNumber * 86_400 + (t.hour * 3_600 + t.minute * 60 + t.second : Nat)) * 1_000_000_000 +
    t.nanosecond

/-- The start of 1 January of year 2000. -/
def millennium : Timestamp :=
  { year := 2000, month := 1, day := 1, hour := 0, minute := 0, second := 0, nanosecond := 0 }

/-- The microseconds since the start of the year 2000, truncated toward zero. -/
def microsecondsSinceMillennium (t : Timestamp) : Int :=
  (t.nanosecondNumber - millennium.nanosecondNumber).tdiv 1000

end Timestamp

example : daysBeforeYear 2000 = 730119 := by decide
example : daysInMonth 1900 2 = 28 ∧ daysInMonth 2000 2 = 29 ∧ daysInMonth (-4) 2 = 29 := by decide

end PolySql

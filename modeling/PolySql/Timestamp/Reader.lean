import PolySql.Text.Blank
import PolySql.Timestamp.Printer

/-!
# Timestamps from text

`Timestamp.ofText?` reads a year, a month, a day, an hour, a minute and a second, set apart by `-`,
`-`, blanks (or nothing), `:` and `:`, and then a fraction that a point starts.  Every number may
have blanks in front of it.  A year with a sign may have any number of digits, a year without one at
most four, and the other numbers at most two.  Second 60 is a leap second, and the digits of a
fraction after the ninth are dropped.  The form without a fraction is tried before the one that may
have one.
-/

namespace PolySql.Timestamp

/-! ### Numbers -/

/-- Whether a character is one of the ten digits. -/
def isDigit (c : Char) : Bool :=
  '0' ≤ c && c ≤ '9'

/-- The number that a sequence of digits stands for. -/
def digitsValue (ds : List Char) : Nat :=
  ds.foldl (fun n c => 10 * n + (c.toNat - '0'.toNat)) 0

/-- The leading digits of a text, at most `limit` of them, and what follows. -/
def takeDigits (limit : Nat) (cs : List Char) : List Char × List Char :=
  let ds := (cs.take limit).takeWhile isDigit
  (ds, cs.drop ds.length)

/-- A number of at least one and at most `limit` digits, and what follows. -/
def readNumber (limit : Nat) (cs : List Char) : Option (Nat × List Char) :=
  match takeDigits limit cs with
  | ([], _) => none
  | (ds, rest) => some (digitsValue ds, rest)

/-- A year after any blanks, and what follows. -/
def readYear (cs : List Char) : Option (Int × List Char) :=
  match Text.trimStart cs with
  | '-' :: rest => (readNumber rest.length rest).map fun (n, after) => (-(n : Int), after)
  | '+' :: rest => (readNumber rest.length rest).map fun (n, after) => ((n : Int), after)
  | rest => (readNumber 4 rest).map fun (n, after) => ((n : Int), after)

/-- A number of one or two digits after any blanks, and what follows. -/
def readPair (cs : List Char) : Option (Nat × List Char) :=
  readNumber 2 (Text.trimStart cs)

/-- The text after a given character. -/
def expect (c : Char) : List Char → Option (List Char)
  | [] => none
  | d :: rest => if c = d then some rest else none

/-! ### Fractions -/

/-- The nanoseconds of a fraction of a second, of which the first nine digits count. -/
def fractionValue (ds : List Char) : Nat :=
  let leading := ds.take 9
  digitsValue leading * Nat.pow 10 (9 - leading.length)

/-- The nanoseconds of the fraction that makes up the rest of a text, zero when nothing is left. -/
def readFraction : List Char → Option Nat
  | [] => some 0
  | '.' :: ds => if !ds.isEmpty && ds.all isDigit then some (fractionValue ds) else none
  | _ => none

/-- Nothing but the end of a text. -/
def readEnd : List Char → Option Nat
  | [] => some 0
  | _ => none

/-! ### The whole text -/

/-- The timestamp that a text stands for, with the given kind of fraction behind the seconds. -/
def ofCharsWith? (fraction? : List Char → Option Nat) (cs : List Char) : Option Timestamp := do
  let (year, cs) ← readYear cs
  let (month, cs) ← readPair (← expect '-' cs)
  let (day, cs) ← readPair (← expect '-' cs)
  let (hour, cs) ← readPair cs
  let (minute, cs) ← readPair (← expect ':' cs)
  let (second, cs) ← readPair (← expect ':' cs)
  let fraction ← fraction? cs
  if second = 60 then of? year month day hour minute 59 (1_000_000_000 + fraction)
  else of? year month day hour minute second fraction

/-- The timestamp that a text stands for.  A text without a fraction is tried first. -/
def ofChars? (cs : List Char) : Option Timestamp :=
  ofCharsWith? readEnd cs <|> ofCharsWith? readFraction cs

/-- The timestamp that a text stands for. -/
def ofText? (s : String) : Option Timestamp :=
  ofChars? s.toList

end PolySql.Timestamp

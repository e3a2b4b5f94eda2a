import PolySql.Text.Blank

/-!
# Patterns

A pattern is a sequence of steps, each of which takes a run of characters of one class: a single
one, at least one, or any number of them.  `Pattern.captures?` matches a whole text.  Every step
first takes as many characters as it can, and gives some of them back when the steps after it do not
match what is left.  The answer lists the runs of the steps that are captured.
-/

namespace PolySql.Text

/-! ### Classes of characters -/

/-- Simple case folding onto the letters from `a` to `z`.  Besides their capitals, the long s
(U+017F) and the sign for kelvin (U+212A) fold to one of them, and no other character does. -/
def foldCase (c : Char) : Char :=
  if c = '\u017F' then 's' else if c = '\u212A' then 'k' else c.toLower

/-- A class of characters. -/
inductive CharClass where
  | blank
  | nonblank
  /-- A letter in any case. -/
  | letter (c : Char)
  deriving DecidableEq, Repr

/-- Whether a character is in a class. -/
def CharClass.holds : CharClass → Char → Bool
  | .blank, c => isBlank c
  | .nonblank, c => !isBlank c
  | .letter a, c => foldCase c == foldCase a

/-! ### Steps -/

/-- How many characters a step takes. -/
inductive Repetition where
  | once
  | oneOrMore
  | any
  deriving DecidableEq, Repr

/-- A run of characters of one class. -/
structure PatternStep where
  charClass : CharClass
  repetition : Repetition := .once
  /-- Whether the run is part of the answer. -/
  captured : Bool := false
  deriving DecidableEq, Repr

namespace PatternStep

/-- The numbers of characters that a step may take from the start of a text, the greatest first. -/
def lengths (step : PatternStep) (cs : List Char) : List Nat :=
  let longest := (cs.takeWhile step.charClass.holds).length
  match step.repetition with
  | .once => if longest = 0 then [] else [1]
  | .oneOrMore => (List.range' 1 longest).reverse
  | .any => (List.range (longest + 1)).reverse

/-- What a step adds to the answer. -/
def kept (step : PatternStep) (run : List Char) : List (List Char) :=
  if step.captured then [run] else []

end PatternStep

/-! ### Patterns -/

/-- A regular expression for a whole text. -/
abbrev Pattern := List PatternStep

/-- The captured runs of a text that matches. -/
def Pattern.captures? : Pattern → List Char → Option (List (List Char))
  | [], [] => some []
  | [], _ :: _ => none
  | step :: steps, cs =>
    (step.lengths cs).findSome? fun n =>
      (captures? steps (cs.drop n)).map (step.kept (cs.take n) ++ ·)

end PolySql.Text

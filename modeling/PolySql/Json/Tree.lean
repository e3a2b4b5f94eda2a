import PolySql.Text.Hex
import PolySql.Json.Basic

/-!
# JSON texts as they are written

A `JsonTree` is what the grammar of JSON alone makes of a text: the members of an object in the
order of the text, a number as its digits, and a string as its characters, if its escapes stand for
any: a half of a surrogate pair on its own is good grammar and no character.  Whether numbers fit
and names repeat is not looked at here.
-/

namespace PolySql

/-! ### The type -/

/-- A number as written: a sign, the digits before the point, those after it (none when there is no
point), and the exponent with its sign. -/
structure Numeral where
  negative : Bool
  whole : List Char
  fraction : List Char
  exponent : Option (Bool × List Char)

/-- A JSON text as written. -/
inductive JsonTree where
  | null
  | bool (b : Bool)
  | number (n : Numeral)
  | string (s : Option String)
  | array (items : List JsonTree)
  | object (members : List (Option String × JsonTree))
  deriving Inhabited

namespace JsonTree

/-! ### Blanks and digits -/

/-- Whether a character may stand between two tokens. -/
def isGap (c : Char) : Bool :=
  c == ' ' || c == '\t' || c == '\n' || c == '\r'

/-- The text from the next token. -/
def skipGap (cs : List Char) : List Char :=
  cs.dropWhile isGap

/-- Whether a character is one of the ten digits. -/
def isDigit (c : Char) : Bool :=
  '0' ≤ c && c ≤ '9'

/-- At least one digit, and what follows. -/
def readDigits (cs : List Char) : Option (List Char × List Char) :=
  match cs.takeWhile isDigit with
  | [] => none
  | ds => some (ds, cs.dropWhile isDigit)

/-! ### Numbers -/

/-- The digits before the point: a zero alone, or digits that do not start with zero. -/
def readWhole : List Char → Option (List Char × List Char)
  | '0' :: c :: rest => if isDigit c then none else some (['0'], c :: rest)
  | cs => readDigits cs

/-- The digits after a point, none when no point follows. -/
def readFraction : List Char → Option (List Char × List Char)
  | '.' :: rest => readDigits rest
  | cs => some ([], cs)

/-- The sign and the digits of an exponent, with `true` for the minus sign. -/
def readSignedDigits : List Char → Option ((Bool × List Char) × List Char)
  | '+' :: rest => (readDigits rest).map fun (ds, after) => ((false, ds), after)
  | '-' :: rest => (readDigits rest).map fun (ds, after) => ((true, ds), after)
  | rest => (readDigits rest).map fun (ds, after) => ((false, ds), after)

/-- The exponent, if a mark for one follows. -/
def readExponent : List Char → Option (Option (Bool × List Char) × List Char)
  | c :: rest =>
    if c = 'e' ∨ c = 'E' then (readSignedDigits rest).map fun (e, after) => (some e, after)
    else some (none, c :: rest)
  | [] => some (none, [])

/-- A number without its sign, and what follows. -/
def readUnsigned (negative : Bool) (cs : List Char) : Option (Numeral × List Char) := do
  let (whole, cs) ← readWhole cs
  let (fraction, cs) ← readFraction cs
  let (exponent, cs) ← readExponent cs
  return (⟨negative, whole, fraction, exponent⟩, cs)

/-- A number, and what follows. -/
def readNumeral : List Char → Option (Numeral × List Char)
  | '-' :: rest => readUnsigned true rest
  | cs => readUnsigned false cs

/-! ### Strings -/

/-- The code unit of an escape that is a letter. -/
def letterEscape? (c : Char) : Option Nat :=
  match c with
  | '"' => some 0x22
  | '\\' => some 0x5C
  | '/' => some 0x2F
  | 'b' => some 0x08
  | 'f' => some 0x0C
  | 'n' => some 0x0A
  | 'r' => some 0x0D
  | 't' => some 0x09
  | _ => none

/-- The code units of a string up to its closing quote, and what follows.  A character that is not
escaped gives its code point. -/
def readUnits : List Char → Option (List Nat × List Char)
  | [] => none
  | '"' :: rest => some ([], rest)
  | '\\' :: 'u' :: a :: b :: c :: d :: rest => do
    let unit ← Hex.number? [a, b, c, d]
    let (units, after) ← readUnits rest
    return (unit :: units, after)
  | '\\' :: c :: rest => do
    let unit ← letterEscape? c
    let (units, after) ← readUnits rest
    return (unit :: units, after)
  | c :: rest => do
    if c.toNat < 0x20 ∨ c = '\\' then none
    let (units, after) ← readUnits rest
    return (c.toNat :: units, after)

/-- The characters of a sequence of code units, in which the two halves of a surrogate pair stand
side by side. -/
def joinUnits : List Nat → Option (List Char)
  | [] => some []
  | [u] => if 0xD800 ≤ u ∧ u < 0xE000 then none else some [Char.ofNat u]
  | u :: v :: rest =>
    if 0xD800 ≤ u ∧ u < 0xE000 then
      if u < 0xDC00 ∧ 0xDC00 ≤ v ∧ v < 0xE000 then do
        let cs ← joinUnits rest
        return Char.ofNat (0x10000 + (u - 0xD800) * 0x400 + (v - 0xDC00)) :: cs
      else none
    else do
      let cs ← joinUnits (v :: rest)
      return Char.ofNat u :: cs

/-- A string after its opening quote, and what follows. -/
def readString (cs : List Char) : Option (Option String × List Char) :=
  (readUnits cs).map fun (units, after) => ((joinUnits units).map String.ofList, after)

/-! ### Values -/

mutual

/-- A value at the start of a text, and what follows.  The fuel bounds the number of nested values
and of items. -/
def readValue : Nat → List Char → Option (JsonTree × List Char)
  | 0, _ => none
  | fuel + 1, cs =>
    match skipGap cs with
    | 'n' :: 'u' :: 'l' :: 'l' :: rest => some (.null, rest)
    | 't' :: 'r' :: 'u' :: 'e' :: rest => some (.bool true, rest)
    | 'f' :: 'a' :: 'l' :: 's' :: 'e' :: rest => some (.bool false, rest)
    | '"' :: rest => (readString rest).map fun (s, after) => (.string s, after)
    | '[' :: rest =>
      match skipGap rest with
      | ']' :: after => some (.array [], after)
      | _ => (readItems fuel rest).map fun (items, after) => (.array items, after)
    | '\x7b' :: rest =>
      match skipGap rest with
      | '\x7d' :: after => some (.object [], after)
      | _ => (readMembers fuel rest).map fun (members, after) => (.object members, after)
    | rest => (readNumeral rest).map fun (n, after) => (.number n, after)

/-- The items of an array up to its bracket, and what follows. -/
def readItems : Nat → List Char → Option (List JsonTree × List Char)
  | 0, _ => none
  | fuel + 1, cs => do
    let (item, rest) ← readValue fuel cs
    match skipGap rest with
    | ']' :: after => return ([item], after)
    | ',' :: more =>
      let (items, after) ← readItems fuel more
      return (item :: items, after)
    | _ => none

/-- The members of an object up to its brace, and what follows. -/
def readMembers : Nat → List Char → Option (List (Option String × JsonTree) × List Char)
  | 0, _ => none
  | fuel + 1, cs => do
    let '"' :: rest := skipGap cs | none
    let (name, rest) ← readString rest
    let ':' :: rest := skipGap rest | none
    let (value, rest) ← readValue fuel rest
    match skipGap rest with
    | '\x7d' :: after => return ([(name, value)], after)
    | ',' :: more =>
      let (members, after) ← readMembers fuel more
      return ((name, value) :: members, after)
    | _ => none

end

/-- The tree of a text that holds one value and nothing else.  Every call that uses fuel up reads a
character, and at most two calls share one, so twice the length of the text is fuel enough. -/
def ofText? (s : String) : Option JsonTree := do
  let cs := s.toList
  let (tree, rest) ← readValue (2 * cs.length + 1) cs
  if (skipGap rest).isEmpty then some tree else none

end JsonTree

end PolySql

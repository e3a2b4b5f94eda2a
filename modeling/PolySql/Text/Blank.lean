/-!
# Blank characters, words and fields

A character is *blank* when it has the Unicode property White_Space.  `trim` removes blanks at both
ends of a text, `words` are its maximal runs of other characters, and `fields` cuts a text at every
separator, so that a text with `n` separators has `n + 1` fields, empty ones included.
-/

namespace PolySql.Text

/-! ### The White_Space property -/

/-- The code points with the property White_Space, as closed ranges in increasing order. -/
def blankRanges : List (Nat × Nat) :=
  [(0x0009, 0x000D), (0x0020, 0x0020), (0x0085, 0x0085), (0x00A0, 0x00A0), (0x1680, 0x1680),
   (0x2000, 0x200A), (0x2028, 0x2029), (0x202F, 0x202F), (0x205F, 0x205F), (0x3000, 0x3000)]

/-- Whether a character has the property White_Space. -/
def isBlank (c : Char) : Bool :=
  blankRanges.any fun range => range.1 ≤ c.toNat && c.toNat ≤ range.2

/-- The property has twenty-five code points. -/
example : (blankRanges.map fun range => range.2 + 1 - range.1).sum = 25 := by decide

/-! ### Trimming -/

/-- The characters from the first one that is not blank. -/
def trimStart (cs : List Char) : List Char :=
  cs.dropWhile isBlank

/-- The characters up to the last one that is not blank. -/
def trimEnd (cs : List Char) : List Char :=
  (cs.reverse.dropWhile isBlank).reverse

/-- A text without the blanks at its two ends. -/
def trim (s : String) : String :=
  String.ofList (trimEnd (trimStart s.toList))

/-- Whether a text holds nothing but blanks. -/
def isAllBlank (s : String) : Bool :=
  s.toList.all isBlank

/-! ### Fields and words -/

/-- The stretches of a text between its separators, in order. -/
def fields (separator : Char → Bool) : List Char → List (List Char)
  | [] => [[]]
  | c :: cs =>
    if separator c then
      [] :: fields separator cs
    else
      match fields separator cs with
      | [] => [[c]]
      | field :: rest => (c :: field) :: rest

/-- The maximal runs of characters that are not blank, in order. -/
def words (s : String) : List String :=
  ((fields isBlank s.toList).filter (! ·.isEmpty)).map String.ofList

@[simp] theorem fields_nil (separator : Char → Bool) : fields separator [] = [[]] := rfl

/-- A text always has a field. -/
theorem fields_ne_nil (separator : Char → Bool) (cs : List Char) : fields separator cs ≠ [] := by
  cases cs with
  | nil => simp
  | cons c cs =>
    rw [fields]
    split
    · simp
    · split <;> simp

/-! ### Letter case and occurrence -/

/-- A text with the letters A to Z in lower case, and all else unchanged. -/
def lowerAscii (s : String) : String :=
  String.ofList (s.toList.map Char.toLower)

/-- Whether the first text occurs somewhere in the second. -/
def occursIn (part : List Char) : List Char → Bool
  | [] => part.isEmpty
  | c :: cs => part.isPrefixOf (c :: cs) || occursIn part cs

end PolySql.Text

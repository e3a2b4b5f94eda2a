/-!
# Placeholders

Statements are put together with the neutral mark `?` for every bound value.  `position` puts the
tokens of an engine in place of the marks of a finished text, numbered from 1 from left to right.
The pass reads the text alone: it does not know string literals, comments or quoted identifiers, so
a mark inside one of them is replaced and numbered too.
-/

namespace PolySql

/-- How an engine writes the placeholder of a bound value. -/
inductive PlaceholderStyle where
  /-- A bare `?`. -/
  | question
  /-- `$1`, `$2`, … -/
  | dollar
  /-- `:1`, `:2`, … -/
  | colon
  /-- `@p1`, `@p2`, … -/
  | atP
  deriving DecidableEq, Repr

namespace Placeholder

/-- The neutral mark. -/
def mark : Char := '?'

end Placeholder

namespace PlaceholderStyle

/-- The token of the placeholder with the given number. -/
def token (style : PlaceholderStyle) (index : Nat) : String :=
  match style with
  | .question => "?"
  | .dollar => "$" ++ toString index
  | .colon => ":" ++ toString index
  | .atP => "@p" ++ toString index

end PlaceholderStyle

namespace Placeholder

/-! ### Numbering -/

/-- Replace the marks by tokens, the first one by the token of `index`. -/
def positionFrom (style : PlaceholderStyle) (index : Nat) : List Char → List Char
  | [] => []
  | c :: cs =>
    if c = mark then (style.token index).toList ++ positionFrom style (index + 1) cs
    else c :: positionFrom style index cs

/-- Whether a text is finished as it stands: its tokens are the marks themselves, or it has none. -/
def isFinished (style : PlaceholderStyle) (sql : String) : Bool :=
  decide (style = .question) || !sql.toList.contains mark

/-- Replace the marks of a text by tokens, numbered from 1 from left to right.  A text that is
finished is handed back without a pass over it. -/
def position (style : PlaceholderStyle) (sql : String) : String :=
  if isFinished style sql then sql else String.ofList (positionFrom style 1 sql.toList)

/-- The number of marks in a text. -/
def count (sql : String) : Nat :=
  sql.toList.count mark

@[simp] theorem positionFrom_nil (style : PlaceholderStyle) (index : Nat) :
    positionFrom style index [] = [] := rfl

theorem positionFrom_mark (style : PlaceholderStyle) (index : Nat) (cs : List Char) :
    positionFrom style index (mark :: cs) =
      (style.token index).toList ++ positionFrom style (index + 1) cs := by
  simp [positionFrom]

theorem positionFrom_of_ne_mark (style : PlaceholderStyle) (index : Nat) {c : Char}
    (h : c ≠ mark) (cs : List Char) :
    positionFrom style index (c :: cs) = c :: positionFrom style index cs := by
  simp [positionFrom, h]

/-! ### Finished texts -/

theorem positionFrom_question (index : Nat) (cs : List Char) :
    positionFrom .question index cs = cs := by
  induction cs generalizing index with
  | nil => rfl
  | cons c cs ih =>
    by_cases hc : c = mark
    · subst hc
      have htoken : (PlaceholderStyle.question.token index).toList = [mark] := by
        simp [PlaceholderStyle.token, mark]
      rw [positionFrom_mark, ih, htoken, List.singleton_append]
    · rw [positionFrom_of_ne_mark _ _ hc, ih]

/-- A text without marks stays as it is. -/
theorem positionFrom_of_not_mem (style : PlaceholderStyle) (index : Nat) {cs : List Char}
    (h : mark ∉ cs) : positionFrom style index cs = cs := by
  induction cs with
  | nil => rfl
  | cons c cs ih =>
    rw [List.mem_cons, not_or] at h
    rw [positionFrom_of_ne_mark style index (Ne.symm h.1), ih h.2]

theorem isFinished_iff {style : PlaceholderStyle} {sql : String} :
    isFinished style sql = true ↔ style = .question ∨ mark ∉ sql.toList := by
  simp [isFinished]

/-- A finished text is what the pass would make of it. -/
theorem position_eq (style : PlaceholderStyle) (sql : String) :
    position style sql = String.ofList (positionFrom style 1 sql.toList) := by
  unfold position
  split
  · rename_i h
    rcases isFinished_iff.mp h with rfl | hmark
    · rw [positionFrom_question, String.ofList_toList]
    · rw [positionFrom_of_not_mem style 1 hmark, String.ofList_toList]
  · rfl

end Placeholder

end PolySql

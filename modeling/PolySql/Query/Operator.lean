import PolySql.Error
import PolySql.Text.Blank

/-!
# Comparison operators

`CompareOp.ofText?` reads an operator without regard to letter case and surrounding blanks;
`CompareOp.sql` writes it.
-/

namespace PolySql

/-- A comparison of a column with a value, or of two columns. -/
inductive CompareOp where
  | eq
  | notEq
  | less
  | lessEq
  | greater
  | greaterEq
  | like
  | notLike
  deriving DecidableEq, Repr

namespace CompareOp

/-- An operator in a statement. -/
def sql : CompareOp → String
  | .eq => "="
  | .notEq => "<>"
  | .less => "<"
  | .lessEq => "<="
  | .greater => ">"
  | .greaterEq => ">="
  | .like => "like"
  | .notLike => "not like"

/-- The form of a text under which operators are looked up. -/
def normalForm (s : String) : String :=
  Text.lowerAscii (Text.trim s)

/-- The operator that a text stands for; `!=` is a second spelling of `<>`. -/
def ofText? (s : String) : Option CompareOp :=
  match normalForm s with
  | "=" => some .eq
  | "<>" => some .notEq
  | "!=" => some .notEq
  | "<" => some .less
  | "<=" => some .lessEq
  | ">" => some .greater
  | ">=" => some .greaterEq
  | "like" => some .like
  | "not like" => some .notLike
  | _ => none

/-- The operator that a text stands for, or the error that there is none. -/
def parse (s : String) : Except Error CompareOp :=
  match ofText? s with
  | some op => .ok op
  | none => .error (.compilation ("unknown comparison operator `" ++ normalForm s ++ "`"))

end CompareOp

end PolySql

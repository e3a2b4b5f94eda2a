import PolySql.Response
import PolySql.Statement.Basic

/-!
# Outputs

`Compiled.output` gives a response the shape that its request asked for: all rows, the first row,
one value a row, a count, or nothing.  A cap on the number of rows cuts the response before the
shape is chosen, whatever the statement.  A transform of the request's own takes the place of all
this and sees the whole response.
-/

namespace PolySql

/-- The answer to a request. -/
inductive Output where
  | rows (set : ResultSet)
  | row (row : Option Row)
  | values (values : List Value)
  | count (n : Nat)
  | unit

namespace Output

/-- The result set of an answer that is one. -/
def rows? : Output → Option ResultSet
  | .rows set => some set
  | _ => none

/-- The row of an answer that is one. -/
def row? : Output → Option Row
  | .row found => found
  | _ => none

/-- The values of an answer that is a list of them. -/
def values? : Output → Option (List Value)
  | .values vs => some vs
  | _ => none

/-- The count of an answer that is one. -/
def count? : Output → Option Nat
  | .count n => some n
  | _ => none

end Output

/-- A shape of the request's own. -/
abbrev Transform := Response → Except Error Output

namespace ResultSet

/-- The rows, at most as many as the cap allows. -/
def capped (s : ResultSet) (maxRows : Option UInt64) : ResultSet :=
  match maxRows with
  | none => s
  | some max => s.truncate max.toNat

/-- The first value of each row that has one. -/
def firstValues (s : ResultSet) : List Value :=
  s.rows.filterMap fun row => row.values.head?

end ResultSet

namespace Statement

/-- The answer that a changing statement gives: values for one column, rows for several columns or
all, and a count when no column is to be handed back. -/
def changeOutput (returning : Option (List String)) (set : ResultSet) (rowsAffected : Nat) :
    Output :=
  match returning with
  | none | some [] => .count rowsAffected
  | some [column] => if column = "*" then .rows set else .values set.firstValues
  | some _ => .rows set

/-- The answer that a statement gives. -/
def output (s : Statement) (response : Response) (maxRows : Option UInt64) :
    Except Error Output :=
  let set := response.resultSet.capped maxRows
  match s.method with
  | .schema => .ok .unit
  | .select => .ok (.rows set)
  | .first => .ok (.row set.first?)
  | .pluck =>
    match s.pluck with
    | none => .error (.execution "pluck without a column")
    | some column => do return .values (← set.pluck column)
  | .insert | .update | .delete | .counter =>
    .ok (changeOutput s.returning set response.rowsAffected)

end Statement

namespace Compiled

/-- The answer that a request gives. -/
def output (c : Compiled) (response : Response) (transform : Option Transform)
    (maxRows : Option UInt64) : Except Error Output :=
  match transform, c with
  | some f, _ => f response
  | none, .sequence _ => .ok .unit
  | none, .single s => s.output response maxRows

end Compiled

end PolySql

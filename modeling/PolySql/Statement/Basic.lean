import PolySql.Binding
import PolySql.Query.Basic

/-!
# Statements

A `Statement` is what a query becomes for one dialect: its text with numbered placeholders, its
bindings, and what is needed to make sense of the answer.  A request becomes one statement or, for
some schema changes, a sequence of them.
-/

namespace PolySql

/-- The select that fetches changed rows by their ids. -/
structure Refetch where
  sql : String
  /-- The names under which the row ids are found, in the order in which they are bound. -/
  rowIds : List String
  deriving DecidableEq, Repr

/-- One statement for one dialect. -/
structure Statement where
  sql : String
  bindings : List Binding := []
  method : Method := .schema
  /-- The columns that the query wanted handed back. -/
  returning : Option (List String) := none
  refetch : Option Refetch := none
  /-- The column that a pluck projects. -/
  pluck : Option String := none
  /-- The conflict that counts as success. -/
  tolerates : Option SchemaConflict := none

namespace Statement

/-- The bound values, slots left out. -/
def values (s : Statement) : List Value :=
  s.bindings.filterMap Binding.value?

/-- The slots. -/
def slots (s : Statement) : List ReturningSlot :=
  s.bindings.filterMap Binding.slot?

end Statement

/-- What a request becomes. -/
inductive Compiled where
  | single (s : Statement)
  | sequence (ss : List Statement)

namespace Compiled

/-- The statements, in the order in which they run. -/
def statements : Compiled → List Statement
  | .single s => [s]
  | .sequence ss => ss

/-- The texts of the statements, in the order in which they run. -/
def sql (c : Compiled) : List String :=
  c.statements.map Statement.sql

end Compiled

end PolySql

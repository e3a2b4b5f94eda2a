import PolySql.Error

/-!
# Why a request has no statement
-/

namespace PolySql

/-- The bounds of a window of rows. -/
inductive WindowBound where
  | limit
  | offset
  deriving DecidableEq, Repr

namespace WindowBound

/-- The name of a bound. -/
def name : WindowBound → String
  | .limit => "limit"
  | .offset => "offset"

end WindowBound

/-- The causes for which a request has no statement. -/
inductive CompileError where
  /-- The table's name is blank. -/
  | noTable
  /-- A query with the method of a schema change. -/
  | schemaMethod
  /-- The text of the query is blank. -/
  | emptyQuery
  | insertWithoutRows
  | insertWithoutColumns
  | updateWithoutValues
  | counterWithoutColumn
  /-- The amount has no absolute value among the integers. -/
  | counterAmount (amount : Int64)
  /-- Rows that are gone cannot be fetched by their ids. -/
  | refetchAfterDelete
  /-- A bound of the window does not fit into a signed integer. -/
  | windowBound (bound : WindowBound) (n : Nat)
  /-- The end of the window does not fit into an unsigned integer. -/
  | windowEnd
  | createWithoutName
  | createWithoutColumns (table : String)
  | dropWithoutName
  deriving DecidableEq, Repr

namespace CompileError

/-- The text of a cause. -/
def detail : CompileError → String
  | .noTable => "query has no target table"
  | .schemaMethod => "schema statements are compiled from a SchemaRequest"
  | .emptyQuery => "The query is empty"
  | .insertWithoutRows => "insert has no rows"
  | .insertWithoutColumns => "insert has no columns"
  | .updateWithoutValues => "update has no values"
  | .counterWithoutColumn => "counter has no column"
  | .counterAmount amount => "counter amount " ++ toString amount.toInt ++ " is out of range"
  | .refetchAfterDelete => "deleted rows cannot be refetched by row id"
  | .windowBound bound n => bound.name ++ " " ++ toString n ++ " is out of range"
  | .windowEnd => "limit plus offset overflows"
  | .createWithoutName => "create table has no name"
  | .createWithoutColumns table => "create table " ++ table ++ " has no columns"
  | .dropWithoutName => "drop table has no name"

/-- The error that a caller sees. -/
def toError (e : CompileError) : Error :=
  .compilation e.detail

end CompileError

end PolySql

import PolySql.Query.Operator
import PolySql.Value

/-!
# Queries

A `Query` describes one statement on a table: which operation, on which rows, and what to hand back.
One type serves all operations, so a query carries fields that its method does not look at.  The
conditions of a query are `Predicate`s, which may hold queries again.
-/

namespace PolySql

/-! ### The parts of a query -/

/-- What a query does; it decides the statement and the shape of the answer. -/
inductive Method where
  | select
  /-- Select one column, as a list of values. -/
  | pluck
  /-- Select the first row. -/
  | first
  | insert
  | update
  | delete
  /-- Add to a numeric column. -/
  | counter
  /-- Create or drop a table. -/
  | schema
  deriving DecidableEq, Repr

namespace Method

/-- Whether a method reads rows. -/
def isSelect : Method → Bool
  | .select | .pluck | .first => true
  | _ => false

/-- Whether a method changes rows. -/
def isChange : Method → Bool
  | .insert | .update | .delete | .counter => true
  | _ => false

end Method

/-- Which rows without a partner a join keeps. -/
inductive JoinKind where
  | inner
  | left
  | right
  deriving DecidableEq, Repr

/-- A join with a table under a comparison of two columns. -/
structure Join where
  kind : JoinKind
  table : String
  left : String
  op : CompareOp := .eq
  right : String
  deriving DecidableEq, Repr

/-- The direction of an ordering. -/
inductive Direction where
  | asc
  | desc
  deriving DecidableEq, Repr

/-- One key of an ordering. -/
structure OrderKey where
  column : String
  direction : Direction
  deriving DecidableEq, Repr

/-- An amount that is added to a column; a negative one is subtracted. -/
structure Counter where
  column : String
  amount : Int64
  deriving DecidableEq, Repr

/-- A cell of a row to insert, or an assignment: a column and its value. -/
abbrev Cell := String × Value

/-! ### Predicates and queries -/

mutual

/-- A condition on rows. -/
inductive Predicate where
  | compare (column : String) (op : CompareOp) (value : Value)
  | inList (column : String) (values : List Value)
  | inQuery (column : String) (query : Query)
  | isNull (column : String)
  | notNull (column : String)
  /-- A condition in SQL, taken as it stands, with a neutral mark for each of its values. -/
  | raw (sql : String) (values : List Value)
  | and (children : List Predicate)
  | or (children : List Predicate)
  | not (child : Predicate)

/-- One statement on a table. -/
structure Query where
  method : Method
  table : String
  /-- The columns of a select; none stands for all. -/
  columns : List String := []
  distinct : Bool := false
  /-- The rows of an insert, each with its cells in any order. -/
  rows : List (List Cell) := []
  /-- The assignments of an update, in order. -/
  assignments : List Cell := []
  counter : Option Counter := none
  /-- The conditions, all of which have to hold. -/
  conditions : List Predicate := []
  joins : List Join := []
  ordering : List OrderKey := []
  limit : Option UInt64 := none
  offset : Option UInt64 := none
  /-- The columns that a change hands back. -/
  returning : Option (List String) := none
  /-- The column that a pluck projects. -/
  pluck : Option String := none
  /-- Whether identifiers are quoted, where it differs from the client's setting. -/
  quoting : Option Bool := none

end

namespace Query

/-! ### Making queries -/

/-- Select all columns. -/
def select (table : String) : Query :=
  { method := .select, table }

/-- Select the first row. -/
def first (table : String) : Query :=
  { method := .first, table }

/-- Select one column as a list of values. -/
def plucking (table column : String) : Query :=
  { method := .pluck, table, pluck := some column }

/-- Insert rows. -/
def insert (table : String) (rows : List (List Cell)) : Query :=
  { method := .insert, table, rows }

/-- Insert a row. -/
def insertOne (table : String) (row : List Cell) : Query :=
  insert table [row]

/-- Assign to columns. -/
def update (table : String) (assignments : List Cell) : Query :=
  { method := .update, table, assignments }

/-- Delete rows. -/
def delete (table : String) : Query :=
  { method := .delete, table }

/-- Add to a column. -/
def increment (table column : String) (amount : Int64) : Query :=
  { method := .counter, table, counter := some { column, amount } }

/-- Subtract from a column.  The least amount has no opposite: it stays as it is, and the compiler
refuses it. -/
def decrement (table column : String) (amount : Int64) : Query :=
  increment table column (-amount)

/-- The number of rows wanted: a query for the first row wants one, whatever limit it has. -/
def rowLimit (q : Query) : Option UInt64 :=
  if q.method = .first then some 1 else q.limit

/-- The columns of the select list: those of the query, or the plucked one when it has none. -/
def selectColumns (q : Query) : List String :=
  match q.pluck, q.columns with
  | some column, [] => [column]
  | _, columns => columns

/-- The columns to hand back, if there are any. -/
def returningColumns? (q : Query) : Option (List String) :=
  q.returning.filter (! ·.isEmpty)

end Query

end PolySql

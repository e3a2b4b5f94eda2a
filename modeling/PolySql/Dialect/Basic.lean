import PolySql.Engine
import PolySql.Error
import PolySql.Placeholder

/-!
# Dialects

A dialect says how one engine writes what every engine can do.  Each policy is a small type of its
own, and the compiler looks at the policies alone, never at the engine, so any mixture of them is a
dialect too.
-/

namespace PolySql

/-! ### Policies -/

/-- How a select item gets its alias. -/
inductive AliasStyle where
  /-- `expr as alias` -/
  | asWord
  /-- `expr alias` -/
  | space
  deriving DecidableEq, Repr

namespace AliasStyle

/-- What stands between an expression and its alias. -/
def separator : AliasStyle → String
  | .asWord => " as "
  | .space => " "

end AliasStyle

/-- How booleans are bound. -/
inductive BooleanEncoding where
  | native
  /-- As the integers 1 and 0. -/
  | integer
  deriving DecidableEq, Repr

/-- How blobs are bound. -/
inductive BinaryEncoding where
  | native
  /-- As lower-case hexadecimal text. -/
  | hex
  deriving DecidableEq, Repr

/-- How a select is cut to a window of rows. -/
inductive LimitStrategy where
  /-- `limit ? offset ?`.  Some engines want a limit before an offset and get `limit -1`. -/
  | limitOffset (offsetRequiresLimit : Bool)
  /-- `offset ? rows fetch next ? rows only`. -/
  | offsetFetch
  /-- Conditions on `rownum` around the select. -/
  | rowNum
  deriving DecidableEq, Repr

/-- How a changing statement hands back the rows that it changed. -/
inductive ReturningStrategy where
  /-- `returning` at the end. -/
  | native
  /-- `output inserted.…` or `output deleted.…` before the values or conditions. -/
  | output
  /-- `returning ROWID into ?` with an out-parameter, and a select by row id afterwards. -/
  | refetch
  deriving DecidableEq, Repr

/-- How an automatic key gets its values. -/
inductive AutoIncrement where
  /-- By the column's type. -/
  | identity
  /-- By a sequence and a trigger before each insert. -/
  | sequenceTrigger
  deriving DecidableEq, Repr

/-- The failures that a repeated create or drop may run into. -/
inductive SchemaConflict where
  | alreadyExists
  | alreadyAbsent
  deriving DecidableEq, Repr

/-- The names of the column types. -/
structure TypeNames where
  increments : String
  bigIncrements : String
  integer : String
  bigInteger : String
  varchar : String
  text : String
  boolean : String
  float : String
  timestamp : String
  binary : String
  deriving DecidableEq, Repr

/-! ### The dialect -/

/-- How one engine is spoken to. -/
structure Dialect where
  name : String
  engine : Engine
  /-- The characters that open and close a quoted identifier. -/
  openQuote : Char
  closeQuote : Char
  aliasStyle : AliasStyle
  placeholderStyle : PlaceholderStyle
  booleanEncoding : BooleanEncoding
  binaryEncoding : BinaryEncoding
  limitStrategy : LimitStrategy
  returningStrategy : ReturningStrategy
  autoIncrement : AutoIncrement
  /-- Whether `drop table if exists` is understood. -/
  nativeDropIfExists : Bool
  /-- The codes of "the object is there already". -/
  alreadyExistsCodes : List Int32
  /-- The codes of "the object is not there". -/
  alreadyAbsentCodes : List Int32
  types : TypeNames
  deriving DecidableEq, Repr

namespace Dialect

/-- The placeholder with the given number. -/
def placeholder (d : Dialect) (index : Nat) : String :=
  d.placeholderStyle.token index

/-- The codes of a conflict. -/
def conflictCodes (d : Dialect) : SchemaConflict → List Int32
  | .alreadyExists => d.alreadyExistsCodes
  | .alreadyAbsent => d.alreadyAbsentCodes

/-- Whether an engine's report is the given conflict: the absolute value of its code is listed. -/
def reports (d : Dialect) (conflict : SchemaConflict) (e : DriverError) : Bool :=
  match e.code with
  | none => false
  | some code => (d.conflictCodes conflict).contains code.abs

/-- Whether changed rows come back from the changing statement itself. -/
def returnsNatively (d : Dialect) : Bool :=
  d.returningStrategy != .refetch

end Dialect

end PolySql

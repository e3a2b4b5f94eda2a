/-!
# Schema changes

Creating and dropping tables.
-/

namespace PolySql

/-- The type of a column. -/
inductive ColumnType where
  /-- An integer key that fills itself. -/
  | increments
  /-- A 64-bit key that fills itself. -/
  | bigIncrements
  | integer
  | bigInteger
  /-- A text of bounded length. -/
  | string (length : UInt32)
  | text
  | boolean
  | float
  | timestamp
  | binary
  deriving DecidableEq, Repr

namespace ColumnType

/-- Whether a column of the type fills itself. -/
def isAutoIncrement : ColumnType → Bool
  | .increments | .bigIncrements => true
  | _ => false

end ColumnType

/-- A column of a table to create. -/
structure ColumnDef where
  name : String
  type : ColumnType
  /-- Whether the definition ends in `null` or `not null`, or in neither. -/
  nullable : Option Bool := none
  deriving DecidableEq, Repr

/-- A change of the schema.  The flag `quoting` overrides the client's setting. -/
inductive SchemaChange where
  | createTable (table : String) (columns : List ColumnDef) (quoting : Option Bool)
  | dropTable (table : String) (ifExists : Bool) (quoting : Option Bool)
  deriving DecidableEq, Repr

namespace SchemaChange

/-- Whether identifiers are quoted, where it differs from the client's setting. -/
def quoting : SchemaChange → Option Bool
  | .createTable _ _ quoting => quoting
  | .dropTable _ _ quoting => quoting

end SchemaChange

end PolySql

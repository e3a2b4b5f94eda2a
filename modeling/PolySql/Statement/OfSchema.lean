import PolySql.Fragment.Basic
import PolySql.CompileError
import PolySql.Schema
import PolySql.Statement.Basic

/-!
# The statements of a schema change

A table whose key fills itself by a sequence takes three statements to create, the table, the
sequence and the trigger, and two to drop: the trigger goes with the table.  Creating the sequence
tolerates that it is there, dropping it that it is not.  Schema statements bind nothing, and their
text is not numbered.
-/

namespace PolySql

namespace ColumnType

/-- The type of a column in a dialect. -/
def sql (types : TypeNames) : ColumnType → String
  | .increments => types.increments
  | .bigIncrements => types.bigIncrements
  | .integer => types.integer
  | .bigInteger => types.bigInteger
  | .string length => types.varchar ++ "(" ++ toString length.toNat ++ ")"
  | .text => types.text
  | .boolean => types.boolean
  | .float => types.float
  | .timestamp => types.timestamp
  | .binary => types.binary

end ColumnType

namespace ColumnDef

/-- The words after the type of a column. -/
def nullability (c : ColumnDef) : String :=
  match c.nullable with
  | some true => " null"
  | some false => " not null"
  | none => ""

/-- The definition of a column. -/
def fragment (types : TypeNames) (c : ColumnDef) : Fragment :=
  [.ident c.name, .text (" " ++ c.type.sql types ++ c.nullability)]

end ColumnDef

namespace SchemaChange

/-! ### Names of helper objects -/

/-- The sequence that fills the key of a table. -/
def sequenceName (table : String) : String :=
  table ++ "_seq"

/-- The trigger that fills a key of a table. -/
def triggerName (table key : String) : String :=
  table ++ "_" ++ key ++ "_trg"

/-! ### The statements under construction -/

/-- Create a table. -/
def createTableFragment (types : TypeNames) (table : String) (columns : List ColumnDef) :
    Fragment :=
  [.text "create table ", .ident table, .text " ("] ++
    Fragment.joined ", " (columns.map (ColumnDef.fragment types)) ++ [.text ")"]

/-- Create the sequence of a table. -/
def createSequenceFragment (table : String) : Fragment :=
  [.text "create sequence ", .ident (sequenceName table)]

/-- Create the trigger that fills a key from the sequence of its table. -/
def createTriggerFragment (table key : String) : Fragment :=
  [.text "create or replace trigger ", .ident (triggerName table key),
    .text " before insert on ", .ident table,
    .text " for each row when (new.", .ident key,
    .text " is null) begin select ", .ident (sequenceName table),
    .text ".nextval into :new.", .ident key, .text " from dual; end;"]

/-- Drop a table. -/
def dropTableFragment (native : Bool) (table : String) : Fragment :=
  [.text (if native then "drop table if exists " else "drop table "), .ident table]

/-- Drop the sequence of a table. -/
def dropSequenceFragment (table : String) : Fragment :=
  [.text "drop sequence ", .ident (sequenceName table)]

/-! ### The statements -/

/-- A statement that binds nothing. -/
def statementOf (w : Writer) (tolerates : Option SchemaConflict) (f : Fragment) : Statement :=
  { sql := f.neutral w, tolerates }

/-- The statements of creating a table. -/
def compileCreate (w : Writer) (table : String) (columns : List ColumnDef) :
    Except CompileError Compiled :=
  if Text.isAllBlank table then .error .createWithoutName
  else if columns.isEmpty then .error (.createWithoutColumns table)
  else
    let create := statementOf w none (createTableFragment w.dialect.types table columns)
    match w.dialect.autoIncrement, columns.find? (·.type.isAutoIncrement) with
    | .sequenceTrigger, some key =>
      .ok <| .sequence
        [create,
          statementOf w (some .alreadyExists) (createSequenceFragment table),
          statementOf w none (createTriggerFragment table key.name)]
    | _, _ => .ok (.single create)

/-- The statements of dropping a table. -/
def compileDrop (w : Writer) (table : String) (ifExists : Bool) : Except CompileError Compiled :=
  if Text.isAllBlank table then .error .dropWithoutName
  else
    let native := w.dialect.nativeDropIfExists
    let tolerates := if ifExists && !native then some .alreadyAbsent else none
    let drop := statementOf w tolerates (dropTableFragment (ifExists && native) table)
    match w.dialect.autoIncrement with
    | .sequenceTrigger =>
      .ok <| .sequence
        [drop, statementOf w (some .alreadyAbsent) (dropSequenceFragment table)]
    | .identity => .ok (.single drop)

/-- The statements of a schema change. -/
def compile (d : Dialect) (quoting : Bool) (change : SchemaChange) :
    Except CompileError Compiled :=
  let w : Writer := { dialect := d, quoting := change.quoting.getD quoting }
  match change with
  | .createTable table columns _ => compileCreate w table columns
  | .dropTable table ifExists _ => compileDrop w table ifExists

end SchemaChange

end PolySql

import PolySql.Sqlite.Stored

/-!
# SQLite databases in memory

Each connection to a database in memory has one of its own, here with at most one table `t` of one
column `v` without a type.  A transaction keeps the table as it was when it began, so that rolling
back undoes its creation too.  What fails changes nothing.

The count of changed rows belongs to the connection: an insert or delete sets it, and creating the
table reports it as it stands.
-/

namespace PolySql.Sqlite

/-- A connection and its database. -/
structure Connection where
  /-- The rows of the table in the order in which they came, if there is a table. -/
  table : Option (List Stored) := none
  /-- In a transaction, the table as it was when the transaction began. -/
  before : Option (Option (List Stored)) := none
  /-- The rows that the last insert or delete changed. -/
  changes : Nat := 0
  deriving DecidableEq

/-! ### The statements on the table -/

/-- The text that creates the table. -/
def createText : String := "create table t (v)"

/-- The text that inserts so many rows. -/
def insertText (count : Nat) : String :=
  "insert into t (v) values " ++ String.intercalate ", " (List.replicate count "(?)")

/-- The text that deletes the rows of a value. -/
def deleteText : String := "delete from t where v is ?"

/-- The text that selects all rows, in the order in which they came. -/
def selectText : String := "select v from t order by rowid"

namespace Connection

/-- Whether the connection is outside of all transactions. -/
def isAutocommit (c : Connection) : Bool :=
  c.before.isNone

/-! ### Failures -/

/-- A transaction is open already. -/
def nestedBegin : DriverError := failure "cannot start a transaction within a transaction"

/-- There is nothing to commit. -/
def commitOutside : DriverError := failure "cannot commit - no transaction is active"

/-- There is nothing to roll back. -/
def rollbackOutside : DriverError := failure "cannot rollback - no transaction is active"

/-- There is no table. -/
def noTable : DriverError := failure "no such table: t"

/-- There is a table already; the statement has no code because it was not even prepared. -/
def tableExists : DriverError :=
  { message := "table t already exists in create table t (v) at offset 13" }

/-- A text that is none of those known here. -/
def unknownText (sql : String) : DriverError := { message := "not known here: " ++ sql }

/-! ### What is asked of a connection -/

/-- Begin, commit or roll back: the connection afterwards. -/
def batch (c : Connection) (words : String) : Except DriverError Connection :=
  if words = "BEGIN" then
    if c.isAutocommit then .ok { c with before := some c.table } else .error nestedBegin
  else if words = "COMMIT" then
    if c.isAutocommit then .error commitOutside else .ok { c with before := none }
  else if words = "ROLLBACK" then
    match c.before with
    | none => .error rollbackOutside
    | some table => .ok { c with table, before := none }
  else .error (unknownText words)

/-- The rows of the table, if there is one. -/
def rows (c : Connection) : Except DriverError (List Stored) :=
  match c.table with
  | some rows => .ok rows
  | none => .error noTable

/-- The connection with other rows, of which a number has changed. -/
def withRows (c : Connection) (rows : List Stored) (changes : Nat) : Connection :=
  { c with table := some rows, changes }

/-- Create the table. -/
def create (c : Connection) : Except DriverError (Response × Connection) :=
  match c.table with
  | none => .ok (.ofCount c.changes, { c with table := some [] })
  | some _ => .error tableExists

/-- Insert rows. -/
def insert (c : Connection) (added : List Stored) : Except DriverError (Response × Connection) := do
  if added.isEmpty then throw incompleteInput
  let rows ← c.rows
  return (.ofCount added.length, c.withRows (rows ++ added) added.length)

/-- Delete the rows of a value. -/
def delete (c : Connection) (wanted : Stored) : Except DriverError (Response × Connection) := do
  let rows ← c.rows
  let kept := rows.filter fun row => !row.is wanted
  let gone := rows.length - kept.length
  return (.ofCount gone, c.withRows kept gone)

/-- Select all rows. -/
def select (c : Connection) : Except DriverError (Response × Connection) := do
  let rows ← c.rows
  return (.ofRows (.ofRows ["v"] (rows.map fun row => [row.toValue])), c)

/-- Run a statement: the response and the connection afterwards. -/
def run (c : Connection) (sql : String) (values : List Stored) :
    Except DriverError (Response × Connection) :=
  if sql = createText then c.create
  else if sql = selectText then c.select
  else if sql = insertText values.length then c.insert values
  else
    match values with
    | [wanted] => if sql = deleteText then c.delete wanted else .error (unknownText sql)
    | _ => .error (unknownText sql)

end Connection

end PolySql.Sqlite

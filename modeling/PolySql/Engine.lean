import PolySql.Text.Blank

/-!
# Database engines

The four engines that statements are compiled for, and their names.
-/

namespace PolySql

/-- A database engine. -/
inductive Engine where
  | postgres
  | sqlite
  | mssql
  | oracle
  deriving DecidableEq, Repr

namespace Engine

/-- The engines, in the order in which a name is looked up. -/
def all : List Engine := [.postgres, .sqlite, .mssql, .oracle]

/-- The name of an engine. -/
def name : Engine → String
  | .postgres => "postgres"
  | .sqlite => "sqlite"
  | .mssql => "mssql"
  | .oracle => "oracle"

/-- The engine of a name. -/
def ofName? (s : String) : Option Engine :=
  all.find? fun engine => engine.name == s

/-- The engine of a name in any letter case; only the letters A to Z have one. -/
def ofNameAnyCase? (s : String) : Option Engine :=
  ofName? (Text.lowerAscii s)

theorem ofName?_name (engine : Engine) : ofName? engine.name = some engine := by
  cases engine <;> decide

end Engine

end PolySql

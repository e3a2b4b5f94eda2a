import PolySql.Dialect.Basic

/-!
# The dialects of the engines

`Engine.dialect` is the dialect of each engine as shipped.
-/

namespace PolySql.Dialect

/-- PostgreSQL: `$1`, `returning`, serial keys. -/
def postgres : Dialect where
  name := "postgres"
  engine := .postgres
  openQuote := '"'
  closeQuote := '"'
  aliasStyle := .asWord
  placeholderStyle := .dollar
  booleanEncoding := .integer
  binaryEncoding := .native
  limitStrategy := .limitOffset false
  returningStrategy := .native
  autoIncrement := .identity
  nativeDropIfExists := true
  alreadyExistsCodes := []
  alreadyAbsentCodes := []
  types :=
    { increments := "serial primary key"
      bigIncrements := "bigserial primary key"
      integer := "integer"
      bigInteger := "bigint"
      varchar := "varchar"
      text := "text"
      boolean := "boolean"
      float := "real"
      timestamp := "timestamptz"
      binary := "bytea" }

/-- SQLite: bare `?`, `returning`, autoincrement keys. -/
def sqlite : Dialect where
  name := "sqlite"
  engine := .sqlite
  openQuote := '"'
  closeQuote := '"'
  aliasStyle := .asWord
  placeholderStyle := .question
  booleanEncoding := .integer
  binaryEncoding := .native
  limitStrategy := .limitOffset true
  returningStrategy := .native
  autoIncrement := .identity
  nativeDropIfExists := true
  alreadyExistsCodes := []
  alreadyAbsentCodes := []
  types :=
    { increments := "integer not null primary key autoincrement"
      bigIncrements := "integer not null primary key autoincrement"
      integer := "integer"
      bigInteger := "bigint"
      varchar := "varchar"
      text := "text"
      boolean := "boolean"
      float := "float"
      timestamp := "datetime"
      binary := "blob" }

/-- SQL Server: brackets, `@p1`, output clauses, offset and fetch.  Code 2714 stands for an object
that exists, 3701 for one that cannot be dropped because it is missing. -/
def mssql : Dialect where
  name := "mssql"
  engine := .mssql
  openQuote := '['
  closeQuote := ']'
  aliasStyle := .asWord
  placeholderStyle := .atP
  booleanEncoding := .integer
  binaryEncoding := .native
  limitStrategy := .offsetFetch
  returningStrategy := .output
  autoIncrement := .identity
  nativeDropIfExists := true
  alreadyExistsCodes := [2714]
  alreadyAbsentCodes := [3701]
  types :=
    { increments := "int identity(1,1) not null primary key"
      bigIncrements := "bigint identity(1,1) not null primary key"
      integer := "int"
      bigInteger := "bigint"
      varchar := "nvarchar"
      text := "nvarchar(max)"
      boolean := "bit"
      float := "float"
      timestamp := "datetime2"
      binary := "varbinary(max)" }

/-- Oracle: `:1`, aliases after a space, `rownum`, row ids, sequences and triggers.  Code 955 stands
for a name in use, 942, 2289 and 4080 for a missing table, sequence and trigger. -/
def oracle : Dialect where
  name := "oracle"
  engine := .oracle
  openQuote := '"'
  closeQuote := '"'
  aliasStyle := .space
  placeholderStyle := .colon
  booleanEncoding := .integer
  binaryEncoding := .hex
  limitStrategy := .rowNum
  returningStrategy := .refetch
  autoIncrement := .sequenceTrigger
  nativeDropIfExists := false
  alreadyExistsCodes := [955]
  alreadyAbsentCodes := [942, 2289, 4080]
  types :=
    { increments := "integer not null primary key"
      bigIncrements := "number(20, 0) not null primary key"
      integer := "integer"
      bigInteger := "number(20, 0)"
      varchar := "varchar2"
      text := "clob"
      boolean := "number(1, 0)"
      float := "float"
      timestamp := "timestamp"
      binary := "blob" }

end PolySql.Dialect

namespace PolySql.Engine

/-- The dialect of an engine. -/
def dialect : Engine → Dialect
  | .postgres => .postgres
  | .sqlite => .sqlite
  | .mssql => .mssql
  | .oracle => .oracle

theorem engine_dialect (engine : Engine) : engine.dialect.engine = engine := by
  cases engine <;> rfl

theorem name_dialect (engine : Engine) : engine.dialect.name = engine.name := by
  cases engine <;> rfl

end PolySql.Engine

import PolySql.Client
import PolySql.Dialect.Builtin
import PolySql.Json.Printer

/-!
# Client settings

The settings of a client name its engine and may change a little of the engine's dialect.
`Config.text` writes them as JSON, with all fields in order.
-/

namespace PolySql

/-- The settings of a client. -/
structure Config where
  engine : Engine
  quoteIdentifiers : Bool := true
  /-- The encoding of blobs in place of the dialect's own. -/
  binaryFallback : Option BinaryEncoding := none
  /-- The cap on the rows of an answer. -/
  maxRows : Option UInt64 := none
  deriving DecidableEq, Repr

namespace BinaryEncoding

/-- The name of an encoding. -/
def name : BinaryEncoding → String
  | .native => "native"
  | .hex => "hex"

/-- The encoding of a name. -/
def ofName? : String → Option BinaryEncoding
  | "native" => some .native
  | "hex" => some .hex
  | _ => none

end BinaryEncoding

namespace Config

/-- The dialect that the settings describe. -/
def dialect (c : Config) : Dialect :=
  let base := c.engine.dialect
  { base with binaryEncoding := c.binaryFallback.getD base.binaryEncoding }

/-- How a client with these settings compiles requests and shapes answers. -/
def profile (c : Config) : Profile :=
  { dialect := c.dialect, quoting := c.quoteIdentifiers, maxRows := c.maxRows }

/-- The settings as a JSON value, with the fields in the order of the text. -/
def toJson (c : Config) : Json :=
  .object
    [("database_type", .string c.engine.name),
      ("quote_identifiers", .bool c.quoteIdentifiers),
      ("binary_fallback", c.binaryFallback.elim .null fun e => .string e.name),
      ("max_rows", c.maxRows.elim .null fun n => .number (.natural n))]

/-- The settings as text. -/
def text (c : Config) : String :=
  c.toJson.text

end Config

end PolySql

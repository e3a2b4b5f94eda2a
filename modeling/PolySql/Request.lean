import PolySql.Output
import PolySql.Statement.OfQuery
import PolySql.Statement.OfSchema

/-!
# Requests

A request is a query, with a transform of its answer if it likes, or a schema change.
-/

namespace PolySql

/-- What a client is asked for. -/
inductive Request where
  | query (q : Query) (transform : Option Transform)
  | schema (change : SchemaChange)

namespace Request

/-- The method of a request. -/
def method : Request → Method
  | .query q _ => q.method
  | .schema _ => .schema

/-- The transform of the answer. -/
def transform? : Request → Option Transform
  | .query _ transform => transform
  | .schema _ => none

/-- The statements of a request.  Identifiers are quoted as the flag says, unless the request says
otherwise. -/
def compile (d : Dialect) (quoting : Bool) : Request → Except CompileError Compiled
  | .query q _ => do return .single (← q.compile d quoting)
  | .schema change => change.compile d quoting

end Request

end PolySql

import PolySql.Backend
import PolySql.Statement.Basic

/-!
# Execution

Statements run in order on one connection.  A statement with a refetch is followed by it as soon as
it has succeeded: the row ids that came back are bound in the refetch, and its rows take the place
of the statement's own.  A failure on the engine that the statement tolerates counts as an empty
response; any other failure ends the run.
-/

namespace PolySql

variable {σ κ : Type}

/-! ### One statement -/

/-- The error of a statement without text. -/
def emptyQueryError : Error := .compilation "The query is empty"

/-- The error of a row id that did not come back. -/
def missingOutBind (name : String) : Error :=
  .execution ("driver returned no value for out-bind " ++ name)

/-- The parameters of a refetch: the values that came back under its names. -/
def rowIdParams (response : Response) (names : List String) : Except Error (List Param) :=
  names.mapM fun name =>
    match response.outBind? name with
    | some v => .ok (.input v)
    | none => .error (missingOutBind name)

namespace Statement

/-- Run the refetch of a statement on the statement's response. -/
def runRefetch (b : Backend σ κ) (c : κ) (refetch : Refetch) (response : Response) :
    Action σ Response := do
  let params ← Action.ofExcept (rowIdParams response refetch.rowIds)
  let refetched ← b.dispatch c refetch.sql params
  return { response with resultSet := refetched.resultSet }

/-- Run a statement, and its refetch if it has one. -/
def run (b : Backend σ κ) (c : κ) (d : Dialect) (s : Statement) : Action σ Response := do
  if Text.isAllBlank s.sql then throw emptyQueryError
  let response ← b.dispatch c s.sql (d.encodeAll s.bindings)
  match s.refetch with
  | none => return response
  | some refetch => runRefetch b c refetch response

/-- Whether a failure counts as success. -/
def toleratesError (d : Dialect) (s : Statement) : Error → Bool
  | .statement _ report => s.tolerates.any fun conflict => d.reports conflict report
  | _ => false

/-- Run a statement, an error that it tolerates counting as the empty response. -/
def runTolerant (b : Backend σ κ) (c : κ) (d : Dialect) (s : Statement) : Action σ Response :=
  tryCatch (s.run b c d) fun e =>
    if s.toleratesError d e then pure Response.empty else throw e

end Statement

/-! ### Sequences -/

namespace Compiled

/-- Run statements in order, starting from the response so far; the last response is the answer. -/
def runFrom (b : Backend σ κ) (c : κ) (d : Dialect) (last : Response) :
    List Statement → Action σ Response
  | [] => return last
  | s :: ss => do runFrom b c d (← s.runTolerant b c d) ss

/-- Run the statements of a request. -/
def run (b : Backend σ κ) (c : κ) (d : Dialect) (compiled : Compiled) : Action σ Response :=
  runFrom b c d Response.empty compiled.statements

end Compiled

end PolySql

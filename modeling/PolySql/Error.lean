/-!
# Errors

A `DriverError` is what an engine reports of a failed call.  An `Error` is what a caller of the
library gets to see; `Error.message` is its text, and `Error.driverError?` the report behind it, if
there is one.
-/

namespace PolySql

/-- The report of a failed statement, begin, commit or rollback.  The code is the engine's own
number for the failure. -/
structure DriverError where
  code : Option Int32 := none
  sqlstate : Option String := none
  message : String
  deriving DecidableEq, Repr

/-- Why a request failed. -/
inductive Error where
  /-- The request has no statement; no connection was touched. -/
  | compilation (detail : String)
  /-- A statement failed on the engine. -/
  | statement (sql : String) (source : DriverError)
  /-- A commit failed. -/
  | commit (source : DriverError)
  /-- A rollback failed; the error that had asked for it is gone. -/
  | rollback (source : DriverError)
  /-- A transaction was asked for something that it cannot do. -/
  | transactionState (detail : String)
  /-- The settings are incomplete. -/
  | config (detail : String)
  /-- No connection could be had. -/
  | connection (detail : String)
  /-- A parameter has no form for the engine. -/
  | parameter (detail : String)
  /-- A response does not have the shape that was asked for. -/
  | execution (detail : String)
  /-- The feature does not exist. -/
  | unimplemented (detail : String)
  /-- Anything else. -/
  | other (detail : String)
  deriving DecidableEq, Repr

namespace Error

/-- The text of an error. -/
def message : Error → String
  | .compilation detail => "Compilation error: " ++ detail
  | .statement sql source =>
    "Statement error: " ++ source.message ++ " (sql: " ++ sql ++ ")"
  | .commit source => "Commit failed: " ++ source.message
  | .rollback source => "Rollback failed: " ++ source.message
  | .transactionState detail => "Transaction state error: " ++ detail
  | .config detail => "Configuration error: " ++ detail
  | .connection detail => "Connection error: " ++ detail
  | .parameter detail => "Parameter conversion error: " ++ detail
  | .execution detail => "SQL execution error: " ++ detail
  | .unimplemented detail => "Unimplemented feature: " ++ detail
  | .other detail => "Other database error: " ++ detail

/-- The engine's report behind an error. -/
def driverError? : Error → Option DriverError
  | .statement _ source => some source
  | .commit source => some source
  | .rollback source => some source
  | _ => none

end Error

end PolySql

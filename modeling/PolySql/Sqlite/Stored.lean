import PolySql.Binding
import PolySql.Json.Printer
import PolySql.Response
import PolySql.Timestamp.Printer

/-!
# Values as SQLite stores them

SQLite has five storage classes.  Booleans are stored as integers, timestamps and JSON as text, and
a not-a-number as null; all else comes back as it was.  A comparison looks at the two classes of
numbers as one.  Parameters go in alone: SQLite hands changed rows back itself, so an out-parameter
is refused.
-/

namespace PolySql.Sqlite

/-- A value as stored. -/
inductive Stored where
  | null
  | integer (n : Int64)
  | real (x : Double)
  | text (s : String)
  | blob (bytes : List UInt8)
  deriving DecidableEq

namespace Stored

/-- A value on its way in. -/
def ofValue : Value → Stored
  | .null => .null
  | .int n => .integer n
  | .float x => if x.isNaN then .null else .real x
  | .text s => .text s
  | .bool b => .integer (if b then 1 else 0)
  | .timestamp t => .text t.text
  | .json j => .text j.text
  | .blob bytes => .blob bytes

/-- A value on its way out. -/
def toValue : Stored → Value
  | .null => .null
  | .integer n => .int n
  | .real x => .float x
  | .text s => .text s
  | .blob bytes => .blob bytes

/-- Whether two stored values are the same under `is`: two numbers when they are exactly equal,
whatever their classes, and other values when they are equal and of one class, null included. -/
def is : Stored → Stored → Bool
  | .null, .null => true
  | .integer m, .integer n => m == n
  | .integer n, .real x => x.isInteger n.toInt
  | .real x, .integer n => x.isInteger n.toInt
  | .real x, .real y => x.same y
  | .text s, .text t => s == t
  | .blob a, .blob b => a == b
  | _, _ => false

end Stored

/-! ### Parameters -/

/-- A failure that SQLite itself reports. -/
def failure (message : String) : DriverError :=
  { code := some 1, message }

/-- The failure of a statement that ends where its values have to follow. -/
def incompleteInput : DriverError := failure "incomplete input"

/-- The refusal of an out-parameter. -/
def outParamRefused (name : String) : DriverError :=
  { message := "sqlite does not support out-parameter " ++ name }

/-- A parameter on its way in. -/
def storedParam : Param → Except DriverError Stored
  | .input v => .ok (.ofValue v)
  | .output p => .error (outParamRefused p.name)

/-- Parameters on their way in; the first one that is refused is reported. -/
def storedParams (params : List Param) : Except DriverError (List Stored) :=
  params.mapM storedParam

/-- The response of a statement that selects its parameters, as the columns `c0`, `c1`, …. -/
def selectParams (params : List Param) : Except DriverError Response := do
  let stored ← storedParams params
  if stored.isEmpty then throw incompleteInput
  let columns := (List.range stored.length).map fun i => "c" ++ toString i
  return .ofRows (.ofRows columns [stored.map Stored.toValue])

end PolySql.Sqlite

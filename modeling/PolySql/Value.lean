import PolySql.Json.Basic
import PolySql.Timestamp.Reader

/-!
# SQL values

A `Value` is what a column holds and what a parameter carries, on every engine.  The accessors give
the payload of one kind of value and nothing for the others, with two exceptions: `asBool?` also
takes the integers 0 and 1, and `asTimestamp?` also takes the text of a timestamp, because some
engines hand booleans and timestamps back in those shapes.
-/

namespace PolySql

/-- A value of a column or a parameter. -/
inductive Value where
  | null
  | int (n : Int64)
  | float (x : Double)
  | text (s : String)
  | bool (b : Bool)
  | timestamp (t : Timestamp)
  | json (j : Json)
  | blob (bytes : List UInt8)
  deriving Inhabited

namespace Value

/-! ### Accessors -/

/-- Whether the value is null. -/
def isNull : Value → Bool
  | .null => true
  | _ => false

/-- The payload of an integer. -/
def asInt? : Value → Option Int64
  | .int n => some n
  | _ => none

/-- The payload of a floating-point number. -/
def asFloat? : Value → Option Double
  | .float x => some x
  | _ => none

/-- The payload of a text. -/
def asText? : Value → Option String
  | .text s => some s
  | _ => none

/-- The payload of a boolean, or the boolean that the integer 0 or 1 stands for. -/
def asBool? : Value → Option Bool
  | .bool b => some b
  | .int n => if n = 1 then some true else if n = 0 then some false else none
  | _ => none

/-- The payload of a timestamp, or the timestamp that a text stands for. -/
def asTimestamp? : Value → Option Timestamp
  | .timestamp t => some t
  | .text s => Timestamp.ofText? s
  | _ => none

/-- The payload of a blob. -/
def asBlob? : Value → Option (List UInt8)
  | .blob bytes => some bytes
  | _ => none

/-! ### Equality -/

/-- Whether two values are of one kind and equal, floating-point numbers compared numerically. -/
def same : Value → Value → Bool
  | .null, .null => true
  | .int m, .int n => m == n
  | .float x, .float y => x.same y
  | .text s, .text t => s == t
  | .bool a, .bool b => a == b
  | .timestamp t, .timestamp u => t == u
  | .json j, .json k => j.same k
  | .blob a, .blob b => a == b
  | _, _ => false

end Value

end PolySql

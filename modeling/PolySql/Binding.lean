import PolySql.Identifier
import PolySql.Text.Hex
import PolySql.Value

/-!
# Bindings and parameters

A statement binds values, and slots for what the engine hands back.  `Dialect.encode` turns each
binding into the parameter that the driver gets: a slot becomes an out-parameter, booleans and blobs
take the dialect's encoding, and all else passes through.
-/

namespace PolySql

/-! ### Bindings -/

/-- A place in a statement where the engine puts a value: the row id of a changed row, on behalf of
the columns to hand back.  The ordinal counts the slots of a statement. -/
structure ReturningSlot where
  column : String
  ordinal : Nat
  deriving DecidableEq, Repr

namespace ReturningSlot

/-- The name under which the engine's value is found. -/
def outBindName (slot : ReturningSlot) : String :=
  if slot.ordinal = 0 then "returnParam" else "returnParam" ++ toString slot.ordinal

/-- A slot as text. -/
def text (slot : ReturningSlot) : String :=
  "[ReturningPlaceholder:" ++ slot.column ++ "]"

end ReturningSlot

/-- What one placeholder of a statement stands for. -/
inductive Binding where
  | value (v : Value)
  | returning (slot : ReturningSlot)

namespace Binding

/-- The value of a binding that is not a slot. -/
def value? : Binding → Option Value
  | .value v => some v
  | .returning _ => none

/-- The slot of a binding that is one. -/
def slot? : Binding → Option ReturningSlot
  | .value _ => none
  | .returning slot => some slot

end Binding

/-! ### Parameters -/

/-- A parameter through which a value comes back, as text. -/
structure OutParam where
  name : String
  /-- The columns that the value stands for. -/
  column : String
  deriving DecidableEq, Repr

/-- A binding in the form that the driver gets. -/
inductive Param where
  | input (v : Value)
  | output (p : OutParam)

/-! ### Encoding -/

namespace Dialect

/-- A value in the form in which the dialect binds it. -/
def encodeValue (d : Dialect) : Value → Value
  | .bool b =>
    match d.booleanEncoding with
    | .native => .bool b
    | .integer => .int (if b then 1 else 0)
  | .blob bytes =>
    match d.binaryEncoding with
    | .native => .blob bytes
    | .hex => .text (Hex.encode bytes)
  | v => v

/-- The parameter of a binding. -/
def encode (d : Dialect) : Binding → Param
  | .value v => .input (d.encodeValue v)
  | .returning slot => .output { name := slot.outBindName, column := slot.column }

/-- The parameter of the binding with the given number, and the placeholder that stands for it. -/
def encodeAt (d : Dialect) (index : Nat) (b : Binding) : Param × String :=
  (d.encode b, d.placeholder index)

/-- The parameters of the bindings of a statement, which are numbered from 1. -/
def encodeAll (d : Dialect) (bindings : List Binding) : List Param :=
  (bindings.zipIdx 1).map fun (b, index) => (d.encodeAt index b).1

theorem encodeAll_eq_map (d : Dialect) (bindings : List Binding) :
    d.encodeAll bindings = bindings.map d.encode := by
  have hbindings : bindings.map d.encode = ((bindings.zipIdx 1).map Prod.fst).map d.encode := by
    rw [List.zipIdx_map_fst]
  rw [hbindings, List.map_map]
  rfl

@[simp] theorem length_encodeAll (d : Dialect) (bindings : List Binding) :
    (d.encodeAll bindings).length = bindings.length := by
  rw [encodeAll_eq_map, List.length_map]

end Dialect

end PolySql

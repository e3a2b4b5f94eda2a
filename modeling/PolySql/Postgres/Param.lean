import PolySql.Json.Printer
import PolySql.Value

/-!
# Parameters of PostgreSQL in binary form

Each parameter is sent in the binary form of the type that the server expects.  Integers go into
booleans, the three integer types, the two floating-point types and the text types; every other kind
of value goes into the types of its own kind alone.  Null has no form and goes into every type.
-/

namespace PolySql.Postgres

/-! ### Types -/

/-- The types that parameters may have. -/
inductive ParamType where
  | int2
  | int4
  | int8
  | float4
  | float8
  | text
  | varchar
  | bpchar
  | name
  | bool
  | timestamp
  | timestamptz
  | json
  | jsonb
  | bytea
  deriving DecidableEq, Repr

namespace ParamType

/-- The type of a name. -/
def ofName? : String → Option ParamType
  | "int2" => some .int2
  | "int4" => some .int4
  | "int8" => some .int8
  | "float4" => some .float4
  | "float8" => some .float8
  | "text" => some .text
  | "varchar" => some .varchar
  | "bpchar" => some .bpchar
  | "name" => some .name
  | "bool" => some .bool
  | "timestamp" => some .timestamp
  | "timestamptz" => some .timestamptz
  | "json" => some .json
  | "jsonb" => some .jsonb
  | "bytea" => some .bytea
  | _ => none

/-- Whether a type holds text. -/
def isText : ParamType → Bool
  | .text | .varchar | .bpchar | .name => true
  | _ => false

end ParamType

/-! ### Forms -/

/-- Why a value has no form. -/
inductive EncodeError where
  /-- The type is not one for values of this kind. -/
  | wrongType
  /-- The integer does not fit into the type. -/
  | outOfRange
  deriving DecidableEq, Repr

/-- A number as a given number of bytes, the most significant one first; a negative one as its two's
complement. -/
def bigEndian (count : Nat) (i : Int) : List UInt8 :=
  let n := (i % (Nat.pow 256 count : Nat)).toNat
  (List.range count).reverse.map fun k => UInt8.ofNat (n / Nat.pow 256 k)

/-- A text as bytes. -/
def textBytes (s : String) : List UInt8 :=
  s.toUTF8.toList

/-- An integer of a given number of bytes, if it fits. -/
def integerBytes (count : Nat) (i : Int) : Except EncodeError (List UInt8) :=
  let bound : Int := (Nat.pow 2 (8 * count - 1) : Nat)
  if -bound ≤ i ∧ i < bound then .ok (bigEndian count i) else .error .outOfRange

/-- The form of a value, none for null. -/
def encode (type : ParamType) (v : Value) : Except EncodeError (Option (List UInt8)) :=
  match v, type with
  | .null, _ => .ok none
  | .int n, .bool => .ok (some [if n = 0 then 0 else 1])
  | .int n, .int2 => (integerBytes 2 n.toInt).map some
  | .int n, .int4 => (integerBytes 4 n.toInt).map some
  | .int n, .int8 => (integerBytes 8 n.toInt).map some
  | .int n, .float4 => .ok (some (bigEndian 4 (Double.singleOfInt n.toInt).toNat))
  | .int n, .float8 => .ok (some (bigEndian 8 (Double.ofInt n.toInt).bits.toNat))
  | .int n, type =>
    if type.isText then .ok (some (textBytes (toString n.toInt))) else .error .wrongType
  | .float x, .float4 => .ok (some (bigEndian 4 x.toSingle.toNat))
  | .float x, .float8 => .ok (some (bigEndian 8 x.bits.toNat))
  | .text s, type => if type.isText then .ok (some (textBytes s)) else .error .wrongType
  | .bool b, .bool => .ok (some [if b then 1 else 0])
  | .timestamp t, .timestamp => .ok (some (bigEndian 8 t.microsecondsSinceMillennium))
  | .timestamp t, .timestamptz => .ok (some (bigEndian 8 t.microsecondsSinceMillennium))
  | .json j, .json => .ok (some (textBytes j.text))
  | .json j, .jsonb => .ok (some (1 :: textBytes j.text))
  | .blob bytes, .bytea => .ok (some bytes)
  | _, _ => .error .wrongType

/-- The form of a value for the type of a name; every value is refused by a type not known here. -/
def encodeFor (typeName : String) (v : Value) : Except EncodeError (Option (List UInt8)) :=
  match ParamType.ofName? typeName with
  | some type => encode type v
  | none => .error .wrongType

end PolySql.Postgres

import PolySql.Config.Basic
import PolySql.Json.Reader

/-!
# Client settings from text

The settings are a JSON object, in which a field may stand once and fields of other names are passed
over, or an array with the values of the fields in order, of which some may be missing at the end.
The engine is required.  A name may be written as a string or as the only member of an object, with
the value null.
-/

namespace PolySql.Config

/-! ### Values of fields -/

/-- A name. -/
def readName : JsonTree → Option String
  | .string s => s
  | .object [(name, .null)] => name
  | _ => none

/-- A truth value. -/
def readBool : JsonTree → Option Bool
  | .bool b => some b
  | _ => none

/-- An integer of 64 bits without sign. -/
def readNatural : JsonTree → Option UInt64
  | .number n =>
    match n.toNumber? with
    | some (.natural k) => some k
    | _ => none
  | _ => none

/-- A value that may be null. -/
def readOptional {α : Type} (read : JsonTree → Option α) : JsonTree → Option (Option α)
  | .null => some none
  | tree => (read tree).map some

/-! ### Fields -/

/-- The fields, in the order in which an array gives them. -/
inductive Field where
  | engine
  | quoteIdentifiers
  | binaryFallback
  | maxRows
  deriving DecidableEq, Repr

namespace Field

/-- The field of a name. -/
def ofName? : String → Option Field
  | "database_type" => some .engine
  | "quote_identifiers" => some .quoteIdentifiers
  | "binary_fallback" => some .binaryFallback
  | "max_rows" => some .maxRows
  | _ => none

/-- All fields in order. -/
def all : List Field := [.engine, .quoteIdentifiers, .binaryFallback, .maxRows]

end Field

/-- The fields read so far. -/
structure Draft where
  engine : Option Engine := none
  quoteIdentifiers : Option Bool := none
  binaryFallback : Option (Option BinaryEncoding) := none
  maxRows : Option (Option UInt64) := none

namespace Draft

/-- Whether a field has been read. -/
def has (d : Draft) : Field → Bool
  | .engine => d.engine.isSome
  | .quoteIdentifiers => d.quoteIdentifiers.isSome
  | .binaryFallback => d.binaryFallback.isSome
  | .maxRows => d.maxRows.isSome

/-- Read a field that has not been read yet. -/
def read (d : Draft) (field : Field) (tree : JsonTree) : Option Draft :=
  if d.has field then none
  else
    match field with
    | .engine => do
      return { d with engine := some (← Engine.ofName? (← readName tree)) }
    | .quoteIdentifiers => do
      return { d with quoteIdentifiers := some (← readBool tree) }
    | .binaryFallback => do
      let encoding ← readOptional (fun t => (readName t).bind BinaryEncoding.ofName?) tree
      return { d with binaryFallback := some encoding }
    | .maxRows => do
      return { d with maxRows := some (← readOptional readNatural tree) }

/-- The settings that the fields make, those not read being at their defaults. -/
def finish (d : Draft) : Option Config := do
  return {
    engine := ← d.engine
    quoteIdentifiers := d.quoteIdentifiers.getD true
    binaryFallback := d.binaryFallback.getD none
    maxRows := d.maxRows.getD none }

/-- Read an item of an array, which stands in the place of a field. -/
def readItem (d : Draft) (item : Field × JsonTree) : Option Draft :=
  d.read item.1 item.2

/-- Read a member of an object. -/
def readMember (d : Draft) (member : Option String × JsonTree) : Option Draft := do
  match Field.ofName? (← member.1) with
  | some field => d.read field member.2
  | none => return d

end Draft

/-! ### Settings -/

/-- The settings that a tree stands for. -/
def ofTree? : JsonTree → Option Config
  | .object members => do (← members.foldlM Draft.readMember {}).finish
  | .array items =>
    if items.length ≤ Field.all.length then do
      (← (Field.all.zip items).foldlM Draft.readItem {}).finish
    else none
  | _ => none

/-- The settings that a text stands for. -/
def ofText? (s : String) : Option Config :=
  (JsonTree.ofText? s).bind ofTree?

end PolySql.Config

import PolySql.Dialect.Builtin
import PolySql.Proofs.Positioning
import PolySql.Proofs.Returning
import PolySql.Proofs.Text.Hex

/-!
# Bindings and their parameters

Each binding of a statement has its parameter in the same place, and the number of the placeholder
that stands for it is that place, counted from 1.  A value that is bound in another form is read
back by its kind (`Value.readAs`) whatever the dialect, so encoding loses nothing
(`Writer.encodeAll_recovers`).
-/

namespace PolySql

/-! ### Reading values back -/

namespace Value

/-- The kinds of values. -/
inductive Kind where
  | null
  | int
  | float
  | text
  | bool
  | timestamp
  | json
  | blob
  deriving DecidableEq, Repr

/-- The kind of a value. -/
def kind : Value → Kind
  | .null => .null
  | .int _ => .int
  | .float _ => .float
  | .text _ => .text
  | .bool _ => .bool
  | .timestamp _ => .timestamp
  | .json _ => .json
  | .blob _ => .blob

/-- What a bound value stands for if it is to be of the given kind: a boolean is read by its
accessor, a blob is itself or the bytes of hexadecimal text, and all else is itself. -/
def readAs (kind : Kind) (bound : Value) : Option Value :=
  match kind, bound with
  | .bool, _ => bound.asBool?.map .bool
  | .blob, .text s => (Hex.decode? s).map .blob
  | .blob, _ => bound.asBlob?.map .blob
  | _, _ => some bound

end Value

namespace Dialect

variable (d : Dialect)

theorem readAs_encodeValue_bool (b : Bool) :
    (d.encodeValue (.bool b)).readAs .bool = some (.bool b) := by
  unfold encodeValue
  cases d.booleanEncoding with
  | native => rfl
  | integer => cases b <;> rfl

theorem readAs_encodeValue_blob (bytes : List UInt8) :
    (d.encodeValue (.blob bytes)).readAs .blob = some (.blob bytes) := by
  unfold encodeValue
  cases d.binaryEncoding with
  | native => rfl
  | hex => simp only [Value.readAs, Hex.decode?_encode, Option.map_some]

/-- A value is read back by its kind. -/
theorem readAs_encodeValue (v : Value) : (d.encodeValue v).readAs v.kind = some v := by
  cases v with
  | bool b => exact d.readAs_encodeValue_bool b
  | blob bytes => exact d.readAs_encodeValue_blob bytes
  | null | int _ | float _ | text _ | timestamp _ | json _ => rfl

/-- A blob is bound as it is, or as the text that writes it. -/
theorem encodeValue_blob (bytes : List UInt8) :
    d.encodeValue (.blob bytes) = .blob bytes ∨
      ∃ s, d.encodeValue (.blob bytes) = .text s ∧ Hex.Writes s bytes := by
  unfold encodeValue
  cases d.binaryEncoding with
  | native => exact .inl rfl
  | hex => exact .inr ⟨Hex.encode bytes, rfl, Hex.writes_encode bytes⟩

variable {d} {bindings : List Binding} {i : Nat}

/-! ### Places -/

theorem getElem?_encodeAll : (d.encodeAll bindings)[i]? = bindings[i]?.map d.encode := by
  rw [encodeAll_eq_map, List.getElem?_map]

theorem encode_eq_output_iff {b : Binding} {p : OutParam} :
    d.encode b = .output p ↔
      ∃ slot, b = .returning slot ∧ p = { name := slot.outBindName, column := slot.column } := by
  cases b with
  | value v => simp [encode]
  | returning slot =>
    simp only [encode, Param.output.injEq, Binding.returning.injEq, exists_eq_left']
    exact eq_comm

/-- The slots are where the out-parameters are. -/
theorem encodeAll_eq_output_iff {p : OutParam} :
    (d.encodeAll bindings)[i]? = some (.output p) ↔
      ∃ slot, bindings[i]? = some (.returning slot) ∧
        p = { name := slot.outBindName, column := slot.column } := by
  rw [getElem?_encodeAll, Option.map_eq_some_iff]
  constructor
  · rintro ⟨b, hb, hp⟩
    obtain ⟨slot, rfl, rfl⟩ := encode_eq_output_iff.mp hp
    exact ⟨slot, hb, rfl⟩
  · rintro ⟨slot, hslot, rfl⟩
    exact ⟨.returning slot, hslot, rfl⟩

theorem encodeAll_of_value {v : Value} (h : bindings[i]? = some (.value v)) :
    (d.encodeAll bindings)[i]? = some (.input (d.encodeValue v)) := by
  rw [getElem?_encodeAll, h, Option.map_some, encode]

/-- Blobs that are bound alike are the same. -/
theorem encode_blob_injective {bytes bytes' : List UInt8}
    (h : d.encode (.value (.blob bytes)) = d.encode (.value (.blob bytes'))) : bytes = bytes' := by
  have hbound : d.encodeValue (.blob bytes) = d.encodeValue (.blob bytes') := Param.input.inj h
  have hread := d.readAs_encodeValue_blob bytes
  rw [hbound, d.readAs_encodeValue_blob bytes'] at hread
  exact (Value.blob.inj (Option.some.inj hread)).symm

end Dialect

/-! ### Numbers -/

namespace Placeholder

/-- Tokens in the places between parts, from left to right. -/
def interleaved (first : String) (tokens rest : List String) : String :=
  first ++ String.join (List.zipWith (· ++ ·) tokens rest)

/-- The tokens of the marks of a text are those of 1, 2, … -/
theorem Cut.position_eq_interleaved {sql first : String} {rest : List String}
    (h : Cut sql first rest) (style : PlaceholderStyle) :
    position style sql =
      interleaved first ((List.range' 1 rest.length).map style.token) rest := by
  have hzip : afterTokens style 1 rest =
      String.join (List.zipWith (· ++ ·) ((List.range' 1 rest.length).map style.token) rest) := by
    rw [afterTokens, List.zipIdx_eq_zip_range', List.map_zip_eq_zipWith, List.zipWith_comm,
      List.zipWith_map_left]
    rfl
  rw [position_eq, h.positionFrom_eq, String.ofList_append, String.ofList_toList,
    String.ofList_toList, hzip, interleaved]

end Placeholder

/-! ### All parameters of a statement -/

/-- **Encoding keeps places and loses nothing.**  There is one parameter for each binding.  It is an
out-parameter exactly in the place of a slot, with the slot's column and a name that tells its
ordinal.  In the place of a value it carries something that is read back as the very value, by its
kind alone: a blob is bound as it is or as its digits, and so no two blobs are bound alike.  The
token beside it is the one that numbering writes for the mark in the same place. -/
theorem Writer.encodeAll_recovers (w : Writer) (bindings : List Binding) :
    (w.dialect.encodeAll bindings).length = bindings.length ∧
    (∀ (i : Nat) (p : OutParam), (w.dialect.encodeAll bindings)[i]? = some (.output p) ↔
      ∃ slot, bindings[i]? = some (.returning slot) ∧
        p = { name := slot.outBindName, column := slot.column }) ∧
    (∀ slot slot' : ReturningSlot,
      slot.outBindName = slot'.outBindName ↔ slot.ordinal = slot'.ordinal) ∧
    (∀ (i : Nat) (v : Value), bindings[i]? = some (.value v) → ∃ bound : Value,
      (w.dialect.encodeAll bindings)[i]? = some (.input bound) ∧ bound.readAs v.kind = some v ∧
        ∀ bytes, v = .blob bytes →
          bound = .blob bytes ∨ ∃ s, bound = .text s ∧ Hex.Writes s bytes) ∧
    (∀ bytes bytes', w.dialect.encode (.value (.blob bytes)) =
      w.dialect.encode (.value (.blob bytes')) → bytes = bytes') ∧
    ∀ sql first rest, Placeholder.Cut sql first rest → ∃ tokens, tokens.length = rest.length ∧
      Placeholder.position w.dialect.placeholderStyle sql =
        Placeholder.interleaved first tokens rest ∧
      ∀ (i : Nat) (b : Binding), bindings[i]? = some b →
        (w.dialect.encodeAll bindings)[i]? = some (w.dialect.encodeAt (i + 1) b).1 ∧
        (i < rest.length → tokens[i]? = some (w.dialect.encodeAt (i + 1) b).2) := by
  refine ⟨w.dialect.length_encodeAll bindings, fun i p => Dialect.encodeAll_eq_output_iff,
    fun slot slot' => ⟨ReturningSlot.ordinal_eq_of_outBindName_eq, fun hordinal => ?_⟩,
    fun i v hv => ?_, fun bytes bytes' => Dialect.encode_blob_injective,
    fun sql first rest hcut => ?_⟩
  · rw [ReturningSlot.outBindName, ReturningSlot.outBindName, hordinal]
  · refine ⟨_, Dialect.encodeAll_of_value hv, w.dialect.readAs_encodeValue v, ?_⟩
    rintro bytes rfl
    exact w.dialect.encodeValue_blob bytes
  · refine ⟨_, ?_, hcut.position_eq_interleaved w.dialect.placeholderStyle, fun i b hb => ⟨?_, ?_⟩⟩
    · rw [List.length_map, List.length_range']
    · rw [Dialect.getElem?_encodeAll, hb, Option.map_some, Dialect.encodeAt]
    · intro hi
      rw [List.getElem?_map, List.getElem?_range' hi, Option.map_some, Nat.one_mul, Nat.add_comm]
      rfl

/-- A blob is bound as text in front of a slot, and the slot has the third token. -/
theorem Writer.encodeAll_recovers_hexBlob :
    let w : Writer := ⟨.oracle, true⟩
    let bindings : List Binding :=
      [.value (.bool true), .value (.blob [0x0F, 0x00]), .returning { column := "id", ordinal := 1 }]
    let sql := "insert into t values (?, ?) returning ROWID into ?"
    let rest := [", ", ") returning ROWID into ", ""]
    w.dialect.encodeValue (.blob [0x0F, 0x00]) = .text "0f00" ∧
      (∃ bound, (w.dialect.encodeAll bindings)[1]? = some (.input bound) ∧
        bound.readAs .blob = some (.blob [0x0F, 0x00])) ∧
      (w.dialect.encodeAll bindings)[2]? =
        some (.output { name := "returnParam1", column := "id" }) ∧
      Placeholder.Cut sql "insert into t values (" rest ∧
      ∃ tokens, Placeholder.position .colon sql =
        Placeholder.interleaved "insert into t values (" tokens rest ∧ tokens[2]? = some ":3" := by
  intro w bindings sql rest
  have hcut : Placeholder.Cut sql "insert into t values (" rest :=
    ⟨by decide +kernel, by decide +kernel⟩
  have hname : "returnParam1" = ReturningSlot.outBindName { column := "id", ordinal := 1 } := by
    decide +kernel
  obtain ⟨-, hslots, -, hvalues, -, htokens⟩ := encodeAll_recovers w bindings
  obtain ⟨bound, hbound, hread, -⟩ := hvalues 1 (.blob [0x0F, 0x00]) rfl
  obtain ⟨tokens, -, hposition, hplaces⟩ := htokens sql _ rest hcut
  obtain ⟨-, htoken⟩ := hplaces 2 (.returning { column := "id", ordinal := 1 }) rfl
  refine ⟨congrArg Value.text (by decide), ⟨bound, hbound, hread⟩, ?_, hcut, tokens, hposition, ?_⟩
  · rw [hname]
    exact (hslots 2 _).mpr ⟨_, rfl, rfl⟩
  · exact htoken (by decide)

end PolySql

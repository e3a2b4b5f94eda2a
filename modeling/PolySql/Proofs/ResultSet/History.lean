import PolySql.Proofs.ResultSet.Lookup

/-!
# What a result set has taken

A `ResultSet.History` keeps the names and values that operations hand in, and knows nothing of
indexes and counters.  Every operation keeps the result set in agreement with it
(`ResultSet.Agrees.note`).  So after any operations the rows are those of the history, each under
the names that it came with, whatever the names of the set have become since, and a name is found at
its last place in each of them (`ResultSet.run_consistent`).
-/

namespace PolySql

/-- The names and the values of a row. -/
def Row.record (row : Row) : List String × List Value :=
  (row.columns, row.values)

namespace ResultSet

/-! ### Operations -/

/-- An operation on a result set. -/
inductive Operation where
  | setColumns (columns : List String)
  | addValues (values : List Value)
  | addRow (row : Row)
  /-- Put a new result set in the place of the old one. -/
  | ofRows (columns : List String) (rows : List (List Value))
  | truncate (max : Nat)

/-- Whether the columns have names after an operation, whatever it finds. -/
def Operation.givesNames : Operation → Bool
  | .setColumns _ | .addRow _ | .ofRows _ _ => true
  | .addValues _ | .truncate _ => false

/-- Do an operation. -/
def apply (s : ResultSet) : Operation → ResultSet
  | .setColumns columns => s.setColumns columns
  | .addValues values => s.addValues values
  | .addRow row => s.addRow row
  | .ofRows columns rows => ofRows columns rows
  | .truncate max => s.truncate max

/-- What operations make of the empty result set, in order. -/
def run (operations : List Operation) : ResultSet :=
  operations.foldl apply empty

theorem run_append_singleton (operations : List Operation) (operation : Operation) :
    run (operations ++ [operation]) = (run operations).apply operation := by
  rw [run, List.foldl_append, List.foldl_cons, List.foldl_nil, run]

/-! ### Histories -/

/-- What operations have handed in since the result set was created. -/
structure History where
  /-- The names of the columns. -/
  names : Option (List String) := none
  /-- The records of the rows that were accepted, in order. -/
  taken : List (List String × List Value) := []
  /-- Those of them that have not been cut off. -/
  kept : List (List String × List Value) := []

namespace History

/-- Accept a row. -/
def accept (h : History) (record : List String × List Value) : History :=
  { h with taken := h.taken ++ [record], kept := h.kept ++ [record] }

/-- Take note of an operation. -/
def note (h : History) : Operation → History
  | .setColumns columns => { h with names := some columns }
  | .addValues values =>
    match h.names with
    | none => h
    | some columns => h.accept (columns, values)
  | .addRow row => { h.accept row.record with names := some (h.names.getD row.columns) }
  | .ofRows columns rows =>
    let records := rows.map fun values => (columns, values)
    { names := some columns, taken := records, kept := records }
  | .truncate max => { h with kept := h.kept.take max }

/-- The history of operations. -/
def ofOperations (operations : List Operation) : History :=
  operations.foldl note {}

theorem ofOperations_append_singleton (operations : List Operation) (operation : Operation) :
    ofOperations (operations ++ [operation]) = (ofOperations operations).note operation := by
  rw [ofOperations, List.foldl_append, List.foldl_cons, List.foldl_nil, ofOperations]

variable {h : History}

theorem kept_sublist_note (hsub : h.kept.Sublist h.taken) (operation : Operation) :
    (h.note operation).kept.Sublist (h.note operation).taken := by
  cases operation with
  | setColumns columns => exact hsub
  | addValues values =>
    unfold note
    cases h.names with
    | none => exact hsub
    | some columns => exact hsub.append_right [(columns, values)]
  | addRow row => exact hsub.append_right [row.record]
  | ofRows columns rows => exact List.Sublist.refl _
  | truncate max => exact (List.take_sublist max h.kept).trans hsub

/-- The rows that are kept have stayed in order. -/
theorem kept_sublist_taken (operations : List Operation) :
    (ofOperations operations).kept.Sublist (ofOperations operations).taken := by
  induction operations using List.reverseRecOn with
  | nil => exact List.Sublist.refl _
  | append_singleton operations operation ih =>
    rw [ofOperations_append_singleton]
    exact kept_sublist_note ih operation

theorem kept_eq_note (hkept : h.kept = h.taken) {operation : Operation}
    (hwhole : ∀ max, operation ≠ .truncate max) :
    (h.note operation).kept = (h.note operation).taken := by
  cases operation with
  | setColumns columns => exact hkept
  | addValues values =>
    unfold note
    cases h.names with
    | none => exact hkept
    | some columns => exact congrArg (· ++ [(columns, values)]) hkept
  | addRow row => exact congrArg (· ++ [row.record]) hkept
  | ofRows columns rows => rfl
  | truncate max => exact absurd rfl (hwhole max)

/-- Where nothing is cut off, all rows are kept. -/
theorem kept_eq_taken {operations : List Operation}
    (hwhole : ∀ max, Operation.truncate max ∉ operations) :
    (ofOperations operations).kept = (ofOperations operations).taken := by
  induction operations using List.reverseRecOn with
  | nil => rfl
  | append_singleton operations operation ih =>
    rw [ofOperations_append_singleton]
    refine kept_eq_note (ih fun max hmax => hwhole max (List.mem_append_left _ hmax)) ?_
    rintro max rfl
    exact hwhole max List.mem_concat_self

theorem names_note_eq_none_iff {operation : Operation} :
    (h.note operation).names = none ↔ h.names = none ∧ operation.givesNames = false := by
  cases operation with
  | addValues values =>
    unfold note
    cases hnames : h.names with
    | none => simp [hnames, Operation.givesNames]
    | some columns => simp [hnames, accept]
  | setColumns _ | addRow _ | ofRows _ _ | truncate _ => simp [note, Operation.givesNames]

/-- The columns have no names until an operation gives them some. -/
theorem names_eq_none_iff {operations : List Operation} :
    (ofOperations operations).names = none ↔
      ∀ operation ∈ operations, operation.givesNames = false := by
  induction operations using List.reverseRecOn with
  | nil => simp [ofOperations]
  | append_singleton operations operation ih =>
    rw [ofOperations_append_singleton, names_note_eq_none_iff, ih]
    simp only [List.mem_append, List.mem_singleton, or_imp, forall_and, forall_eq]

end History

/-! ### Agreement -/

/-- A result set has the names and the rows that its history has kept, and has counted all that were
accepted. -/
structure Agrees (s : ResultSet) (h : History) : Prop where
  columns : s.columns = h.names
  records : s.rows.map Row.record = h.kept
  rowsAffected : s.rowsAffected = h.taken.length

namespace Agrees

variable {s : ResultSet} {h : History}

theorem ofRows (columns : List String) (rows : List (List Value)) :
    (ResultSet.ofRows columns rows).Agrees (h.note (.ofRows columns rows)) := by
  rw [ofRows_eq]
  refine ⟨rfl, ?_, ?_⟩
  · rw [List.map_map]
    rfl
  · exact (List.length_map _).symm

theorem addRow (hs : s.Agrees h) (row : Row) :
    (s.addRow row).Agrees (h.note (.addRow row)) := by
  refine ⟨?_, ?_, ?_⟩
  · rw [columns_addRow, hs.columns]
    rfl
  · rw [rows_addRow, List.map_append, hs.records]
    rfl
  · rw [rowsAffected_addRow, hs.rowsAffected, History.note, History.accept, List.length_append]
    rfl

theorem addValues (hs : s.Agrees h) (values : List Value) :
    (s.addValues values).Agrees (h.note (.addValues values)) := by
  unfold History.note
  cases hnames : h.names with
  | none =>
    rw [addValues_of_no_columns (hs.columns.trans hnames)]
    exact hs
  | some columns =>
    rw [addValues_of_columns (hs.columns.trans hnames)]
    exact ⟨hs.columns, by simp [History.accept, hs.records, Row.record],
      by simp [History.accept, hs.rowsAffected]⟩

/-- Every operation keeps a result set in agreement with its history. -/
theorem note (hs : s.Agrees h) (operation : Operation) :
    (s.apply operation).Agrees (h.note operation) := by
  cases operation with
  | setColumns columns => exact ⟨rfl, hs.records, hs.rowsAffected⟩
  | addValues values => exact hs.addValues values
  | addRow row => exact hs.addRow row
  | ofRows columns rows => exact ofRows columns rows
  | truncate max =>
    refine ⟨hs.columns, ?_, hs.rowsAffected⟩
    rw [apply, ResultSet.truncate, List.map_take, hs.records]
    rfl

end Agrees

theorem agrees_run (operations : List Operation) :
    (run operations).Agrees (History.ofOperations operations) := by
  induction operations using List.reverseRecOn with
  | nil => exact ⟨rfl, rfl, rfl⟩
  | append_singleton operations operation ih =>
    rw [run_append_singleton, History.ofOperations_append_singleton]
    exact ih.note operation

/-! ### Consistency -/

/-- What holds of the result set that operations have made, in the terms of their history. -/
structure Consistent (s : ResultSet) (operations : List Operation) (h : History) : Prop where
  /-- A name is found at its last place among those of the row, and nowhere if it is not there. -/
  index : ∀ row ∈ s.rows, ∀ name,
    (∀ i, row.columnIndex? name = some i ↔ LastPlace row.columns name i) ∧
      (row.columnIndex? name = none ↔ name ∉ row.columns)
  /-- The value of a name is the one in this place, if the row is long enough. -/
  value : ∀ row ∈ s.rows, ∀ name,
    (∀ i, LastPlace row.columns name i → row.get? name = row.values[i]?) ∧
      (name ∉ row.columns → row.get? name = none)
  /-- The rows are those that were kept, with the names that they came with, in order. -/
  records : s.rows.map Row.record = h.kept
  order : h.kept.Sublist h.taken
  names : s.columns = h.names
  /-- The columns have no names as long as no operation gives them some, and bare values change
  nothing until then. -/
  unnamed : s.columns = none ↔ ∀ operation ∈ operations, operation.givesNames = false
  ignored : s.columns = none → ∀ values, s.addValues values = s
  /-- All rows that were accepted are counted, those that were cut off too. -/
  rowsAffected : s.rowsAffected = h.taken.length
  size_le : s.size ≤ s.rowsAffected
  size_eq_iff : s.size = s.rowsAffected ↔ h.kept = h.taken
  uncut : (∀ max, Operation.truncate max ∉ operations) → h.kept = h.taken
  /-- A column is plucked as the values of all rows, and not at all if one of them lacks it. -/
  pluck : ∀ name,
    (∀ values, s.pluck name = .ok values ↔ s.rows.map (·.get? name) = values.map some) ∧
      ∀ e, s.pluck name = .error e ↔
        e = missingColumn name ∧ ∃ row ∈ s.rows, row.get? name = none

/-- **A result set stays consistent.**  After any operations, in any order, names are looked up in
the rows as they came, the rows are in order, and their number is kept.  Giving the columns new
names changes nothing of the rows that are there. -/
theorem run_consistent (operations : List Operation) :
    (run operations).Consistent operations (History.ofOperations operations) := by
  have hagrees := agrees_run operations
  have horder := History.kept_sublist_taken operations
  have hsize : (run operations).size = (History.ofOperations operations).kept.length := by
    rw [size, ← hagrees.records, List.length_map]
  exact
    { index := fun row _ name =>
        ⟨fun i => Row.columnIndex?_eq_some_iff, Row.columnIndex?_eq_none_iff⟩
      value := fun row _ name => ⟨fun i => Row.get?_of_lastPlace, Row.get?_of_notMem⟩
      records := hagrees.records
      order := horder
      names := hagrees.columns
      unnamed := by rw [hagrees.columns, History.names_eq_none_iff]
      ignored := addValues_of_no_columns
      rowsAffected := hagrees.rowsAffected
      size_le := by
        rw [hsize, hagrees.rowsAffected]
        exact horder.length_le
      size_eq_iff := by
        rw [hsize, hagrees.rowsAffected]
        exact ⟨horder.eq_of_length, congrArg List.length⟩
      uncut := History.kept_eq_taken
      pluck := fun name => ⟨fun values => pluck_eq_ok_iff_map, fun e => pluck_eq_error_iff⟩ }

-- The first row has come before the columns were renamed, and the last one has names of its own.
example :
    let set := run [.addValues [.int 0], .setColumns ["a", "a"], .addValues [.int 1, .int 2],
      .setColumns ["b", "a"], .addValues [.int 3, .int 4],
      .addRow { columns := ["a"], values := [.int 5] }]
    set.pluck "a" = .ok [.int 2, .int 4, .int 5] ∧ set.rowsAffected = 3 := ⟨rfl, rfl⟩

end ResultSet

end PolySql

import PolySql.Error
import PolySql.Value

/-!
# Rows and result sets

A row carries the names of its columns, which may repeat: a name stands for its last column.  A row
may have fewer values than names.  A result set takes the names of its columns from its first row,
or is given them; until then it ignores bare values.  It counts the rows that it has taken, and
cutting it short does not change that count.

Names are looked up in an index of their places.  A result set makes one index for its names, and
every row of bare values gets it from there; a row with names of its own makes its own index.  The
index is kept with the names and with the proof that it is the one of these names.
-/

namespace PolySql

/-! ### Places of names -/

/-- Places of names, found by name. -/
structure ColumnIndex where
  entries : List (String × Nat) := []
  deriving DecidableEq, Repr

namespace ColumnIndex

/-- Give a name a place, instead of the one that it has. -/
def insert (index : ColumnIndex) (name : String) (place : Nat) : ColumnIndex :=
  { entries := (name, place) :: index.entries }

/-- The place of a name. -/
def find? (index : ColumnIndex) (name : String) : Option Nat :=
  index.entries.lookup name

/-- The places of names in a list, put in from left to right. -/
def ofNames (names : List String) : ColumnIndex :=
  names.zipIdx.foldl (fun index (name, place) => index.insert name place) {}

@[simp] theorem find?_ofNames_nil (name : String) : (ofNames []).find? name = none := rfl

theorem find?_insert (index : ColumnIndex) (name : String) (place : Nat) (other : String) :
    (index.insert name place).find? other =
      if other = name then some place else index.find? other := by
  rw [find?, insert, List.lookup_cons]
  by_cases h : other = name
  · rw [if_pos h, beq_iff_eq.mpr h]
  · rw [if_neg h, beq_eq_false_iff_ne.mpr h]
    rfl

theorem ofNames_append_singleton (names : List String) (name : String) :
    ofNames (names ++ [name]) = (ofNames names).insert name names.length := by
  rw [ofNames, List.zipIdx_append, List.foldl_append]
  simp [ofNames]

end ColumnIndex

/-! ### Rows -/

/-- A row of named values. -/
structure Row where
  columns : List String
  values : List Value
  /-- Where each name stands, for the last time if it repeats. -/
  index : ColumnIndex := .ofNames columns
  index_eq : index = .ofNames columns := by rfl

namespace Row

instance : Inhabited Row := ⟨{ columns := [], values := [] }⟩

/-- The place of the last column of a name. -/
def columnIndex? (r : Row) (name : String) : Option Nat :=
  r.index.find? name

/-- The value at a place. -/
def valueAt? (r : Row) (i : Nat) : Option Value :=
  r.values[i]?

/-- The value of a column. -/
def get? (r : Row) (name : String) : Option Value :=
  (r.columnIndex? name).bind r.valueAt?

/-- The value of a column, moved out of a row that is not needed any more. -/
def take? (r : Row) (name : String) : Option Value :=
  match r.columnIndex? name with
  | none => none
  | some i => if h : i < r.values.length then some r.values[i] else none

/-- Whether two lists of values agree place by place. -/
def sameValues : List Value → List Value → Bool
  | [], [] => true
  | x :: xs, y :: ys => x.same y && sameValues xs ys
  | _, _ => false

/-- Whether two rows have equal names and equal values. -/
def same (r s : Row) : Bool :=
  r.columns == s.columns && sameValues r.values s.values

/-- The value that can be moved out is the one that is there. -/
theorem take?_eq_get? (r : Row) (name : String) : r.take? name = r.get? name := by
  rw [take?, get?]
  cases r.columnIndex? name with
  | none => rfl
  | some i => rw [Option.bind_some, valueAt?, getElem?_def]

end Row

/-! ### Result sets -/

/-- The names of columns, with the index of their places. -/
structure Header where
  names : List String
  index : ColumnIndex := .ofNames names
  index_eq : index = .ofNames names := by rfl

/-- A row of bare values, under the names and the index that are there. -/
def Header.row (header : Header) (values : List Value) : Row :=
  { columns := header.names, values, index := header.index, index_eq := header.index_eq }

theorem Header.row_eq (header : Header) (values : List Value) :
    header.row values = { columns := header.names, values } := by
  obtain ⟨names, index, rfl⟩ := header
  rfl

/-- The rows of a response. -/
structure ResultSet where
  /-- The names of the columns, shared with the rows of bare values. -/
  header : Option Header := none
  rows : List Row := []
  /-- The number of rows taken so far. -/
  rowsAffected : Nat := 0

namespace ResultSet

instance : Inhabited ResultSet := ⟨{}⟩

/-- The result set without names and rows. -/
def empty : ResultSet := {}

/-- The names of the columns. -/
def columns (s : ResultSet) : Option (List String) :=
  s.header.map Header.names

/-- Give the columns names; rows that are there keep theirs. -/
def setColumns (s : ResultSet) (columns : List String) : ResultSet :=
  { s with header := some { names := columns } }

/-- Take a row of the given values, if the columns have names. -/
def addValues (s : ResultSet) (values : List Value) : ResultSet :=
  match s.header with
  | none => s
  | some header =>
    { s with rows := s.rows ++ [header.row values], rowsAffected := s.rowsAffected + 1 }

/-- Take a row; its names become those of the set if it has none. -/
def addRow (s : ResultSet) (row : Row) : ResultSet :=
  let named :=
    match s.columns with
    | none => s.setColumns row.columns
    | some _ => s
  { named with rows := named.rows ++ [row], rowsAffected := named.rowsAffected + 1 }

/-- The result set of rows under common names. -/
def ofRows (columns : List String) (rows : List (List Value)) : ResultSet :=
  rows.foldl addValues (empty.setColumns columns)

/-- Keep at most the given number of rows. -/
def truncate (s : ResultSet) (max : Nat) : ResultSet :=
  { s with rows := s.rows.take max }

/-- The number of rows. -/
def size (s : ResultSet) : Nat :=
  s.rows.length

/-- The first row. -/
def first? (s : ResultSet) : Option Row :=
  s.rows.head?

/-- The error of a row that lacks a column. -/
def missingColumn (name : String) : Error :=
  .execution ("column " ++ name ++ " is not in the result set")

/-- The values of a column, unless a row lacks it. -/
def pluck (s : ResultSet) (name : String) : Except Error (List Value) :=
  s.rows.mapM fun row =>
    match row.take? name with
    | some v => .ok v
    | none => .error (missingColumn name)

@[simp] theorem size_truncate (s : ResultSet) (max : Nat) :
    (s.truncate max).size = min max s.size := by
  simp [truncate, size]

@[simp] theorem columns_setColumns (s : ResultSet) (columns : List String) :
    (s.setColumns columns).columns = some columns := rfl

theorem columns_addRow (s : ResultSet) (row : Row) :
    (s.addRow row).columns = some (s.columns.getD row.columns) := by
  unfold addRow
  cases hcolumns : s.columns with
  | none => rfl
  | some columns => exact hcolumns

@[simp] theorem rows_addRow (s : ResultSet) (row : Row) : (s.addRow row).rows = s.rows ++ [row] := by
  unfold addRow
  cases s.columns <;> rfl

@[simp] theorem rowsAffected_addRow (s : ResultSet) (row : Row) :
    (s.addRow row).rowsAffected = s.rowsAffected + 1 := by
  unfold addRow
  cases s.columns <;> rfl

@[simp] theorem columns_addValues (s : ResultSet) (values : List Value) :
    (s.addValues values).columns = s.columns := by
  unfold addValues
  split <;> rfl

theorem addValues_of_columns {s : ResultSet} {columns : List String}
    (h : s.columns = some columns) (values : List Value) :
    s.addValues values =
      { s with rows := s.rows ++ [{ columns, values }], rowsAffected := s.rowsAffected + 1 } := by
  obtain ⟨header, hheader, rfl⟩ := Option.map_eq_some_iff.mp h
  simp only [addValues, hheader, Header.row_eq]

theorem addValues_of_no_columns {s : ResultSet} (h : s.columns = none) (values : List Value) :
    s.addValues values = s := by
  have hheader : s.header = none := Option.map_eq_none_iff.mp h
  simp only [addValues, hheader]

/-- Rows of bare values are taken one by one. -/
theorem foldl_addValues {s : ResultSet} {columns : List String} (h : s.columns = some columns)
    (rows : List (List Value)) :
    rows.foldl addValues s =
      { s with
        rows := s.rows ++ rows.map fun values => ({ columns, values } : Row)
        rowsAffected := s.rowsAffected + rows.length } := by
  induction rows generalizing s with
  | nil => rw [List.foldl_nil, List.map_nil, List.append_nil, List.length_nil, Nat.add_zero]
  | cons values rows ih =>
    have hcolumns : (s.addValues values).columns = some columns := by rw [columns_addValues, h]
    rw [List.foldl_cons, ih hcolumns, addValues_of_columns h, List.map_cons, List.append_assoc,
      List.singleton_append, List.length_cons, Nat.add_assoc, Nat.add_comm 1]

theorem ofRows_eq (columns : List String) (rows : List (List Value)) :
    ofRows columns rows =
      { header := some { names := columns }
        rows := rows.map fun values => ({ columns, values } : Row)
        rowsAffected := rows.length } := by
  rw [ofRows, foldl_addValues (columns_setColumns empty columns)]
  simp [empty, setColumns]

@[simp] theorem rows_ofRows (columns : List String) (rows : List (List Value)) :
    (ofRows columns rows).rows = rows.map fun values => ({ columns, values } : Row) := by
  rw [ofRows_eq]

end ResultSet

end PolySql

import Mathlib.Data.List.Induction
import PolySql.Output
import PolySql.Proofs.Fragment.Inversion

/-!
# Values found by name

Names are put into an index from left to right, so that what is found for a name is its last place
(`ColumnIndex.find?_ofNames_eq_some_iff`).  A value is found there unless the row is too short
(`Row.get?_eq_some_iff`), and a column is plucked from a result set exactly if every row has a value
in it (`ResultSet.pluck_eq_ok_iff`, `ResultSet.pluck_eq_error_iff`).
-/

namespace PolySql

/-! ### The last place of a name -/

/-- A name stands at a place, and nowhere behind it. -/
def LastPlace (names : List String) (name : String) (i : Nat) : Prop :=
  names[i]? = some name ∧ ∀ j, i < j → names[j]? ≠ some name

section LastPlace

variable {names : List String} {name last : String} {i : Nat}

theorem not_lastPlace_nil : ¬ LastPlace [] name i :=
  fun h => nomatch h.1

theorem lastPlace_append_self : LastPlace (names ++ [name]) name i ↔ i = names.length := by
  constructor
  · rintro ⟨hname, hlast⟩
    obtain ⟨hlength, -⟩ := List.getElem?_eq_some_iff.mp hname
    rw [List.length_append, List.length_singleton] at hlength
    by_contra hne
    exact hlast names.length (by omega) (by simp)
  · rintro rfl
    refine ⟨by simp, fun j hj hname => ?_⟩
    obtain ⟨hlength, -⟩ := List.getElem?_eq_some_iff.mp hname
    rw [List.length_append, List.length_singleton] at hlength
    omega

theorem lastPlace_append_of_ne (h : name ≠ last) :
    LastPlace (names ++ [last]) name i ↔ LastPlace names name i := by
  have hplace (j : Nat) : (names ++ [last])[j]? = some name ↔ names[j]? = some name := by
    rcases Nat.lt_trichotomy j names.length with hj | rfl | hj
    · rw [List.getElem?_append_left hj]
    · simp [h.symm]
    · rw [List.getElem?_eq_none (by simp; omega), List.getElem?_eq_none (by omega)]
  simp only [LastPlace, ne_eq, hplace]

end LastPlace

namespace ColumnIndex

/-- What is found for a name is its last place. -/
theorem find?_ofNames_eq_some_iff {names : List String} {name : String} {i : Nat} :
    (ofNames names).find? name = some i ↔ LastPlace names name i := by
  induction names using List.reverseRecOn with
  | nil => simp [not_lastPlace_nil]
  | append_singleton names last ih =>
    rw [ofNames_append_singleton, find?_insert]
    by_cases h : name = last
    · rw [if_pos h, h, lastPlace_append_self, Option.some.injEq, eq_comm]
    · rw [if_neg h, ih, lastPlace_append_of_ne h]

theorem find?_ofNames_eq_none_iff {names : List String} {name : String} :
    (ofNames names).find? name = none ↔ name ∉ names := by
  induction names using List.reverseRecOn with
  | nil => simp
  | append_singleton names last ih =>
    rw [ofNames_append_singleton, find?_insert, List.mem_append, List.mem_singleton, not_or, ← ih]
    by_cases h : name = last <;> simp [h]

end ColumnIndex

/-! ### The columns of a row -/

namespace Row

variable {r : Row} {name : String} {i : Nat} {v : Value}

theorem columnIndex?_eq_some_iff : r.columnIndex? name = some i ↔ LastPlace r.columns name i := by
  rw [columnIndex?, r.index_eq, ColumnIndex.find?_ofNames_eq_some_iff]

theorem columnIndex?_eq_none_iff : r.columnIndex? name = none ↔ name ∉ r.columns := by
  rw [columnIndex?, r.index_eq, ColumnIndex.find?_ofNames_eq_none_iff]

/-- A value stands in the last column of a name. -/
def Holds (r : Row) (name : String) (v : Value) : Prop :=
  ∃ i : Nat, r.columns[i]? = some name ∧ (∀ j, i < j → r.columns[j]? ≠ some name) ∧
    r.values[i]? = some v

/-- What is found of a name is the value in its last place. -/
theorem get?_of_lastPlace (h : LastPlace r.columns name i) : r.get? name = r.values[i]? := by
  rw [get?, columnIndex?_eq_some_iff.mpr h, Option.bind_some, valueAt?]

theorem get?_of_notMem (h : name ∉ r.columns) : r.get? name = none := by
  rw [get?, columnIndex?_eq_none_iff.mpr h, Option.bind_none]

theorem get?_eq_some_iff : r.get? name = some v ↔ r.Holds name v := by
  rw [get?, Option.bind_eq_some_iff]
  refine exists_congr fun i => ?_
  rw [columnIndex?_eq_some_iff, LastPlace, valueAt?, and_assoc]

/-- A row that lacks no value has the value of each of its columns. -/
theorem exists_get? (h : name ∈ r.columns) (hcomplete : r.values.length = r.columns.length) :
    ∃ v, r.get? name = some v ∧ r.Holds name v := by
  obtain ⟨i, hi⟩ := Option.ne_none_iff_exists'.mp (mt columnIndex?_eq_none_iff.mp (not_not.mpr h))
  have hlength : i < r.values.length := by
    rw [hcomplete]
    exact (List.getElem?_eq_some_iff.mp (columnIndex?_eq_some_iff.mp hi).1).1
  have hget : r.get? name = some r.values[i] := by
    rw [get?_of_lastPlace (columnIndex?_eq_some_iff.mp hi), List.getElem?_eq_getElem hlength]
  exact ⟨r.values[i], hget, get?_eq_some_iff.mp hget⟩

end Row

/-! ### The columns of a result set -/

namespace ResultSet

variable {set : ResultSet} {name : String}

/-- Plucking gives the value of the column in each row, in order. -/
theorem pluck_eq_ok_iff {values : List Value} :
    set.pluck name = .ok values ↔
      List.Forall₂ (fun (row : Row) v => row.get? name = some v) set.rows values := by
  unfold pluck
  induction set.rows generalizing values with
  | nil => cases values <;> simp [pure, Except.pure]
  | cons row rows ih =>
    rw [List.mapM_cons, bind_eq_ok, Row.take?_eq_get?]
    constructor
    · rintro ⟨v, hv, hrows⟩
      obtain ⟨rest, hrest, rfl⟩ := bind_pure_eq_ok.mp hrows
      refine .cons ?_ (ih.mp hrest)
      cases hget : row.get? name <;> simp_all
    · rintro (_ | ⟨hv, hrest⟩)
      exact ⟨_, by rw [hv], bind_pure_eq_ok.mpr ⟨_, ih.mpr hrest, rfl⟩⟩

theorem pluck_eq_ok_iff_map {values : List Value} :
    set.pluck name = .ok values ↔ set.rows.map (·.get? name) = values.map some := by
  rw [pluck_eq_ok_iff, ← List.forall₂_eq_eq_eq, List.forall₂_map_left_iff,
    List.forall₂_map_right_iff]

/-- Plucking fails exactly if a row lacks the column. -/
theorem pluck_eq_error_iff {e : Error} :
    set.pluck name = .error e ↔
      e = missingColumn name ∧ ∃ row ∈ set.rows, row.get? name = none := by
  unfold pluck
  induction set.rows with
  | nil => simp [pure, Except.pure]
  | cons row rows ih =>
    rw [List.mapM_cons, bind_eq_error, Row.take?_eq_get?, List.exists_mem_cons_iff]
    cases hget : row.get? name with
    | none => simp [eq_comm]
    | some v =>
      simp only [reduceCtorEq, false_or, Except.ok.injEq, exists_eq_left', bind_pure_eq_error, ih]

/-- What is plucked depends on the rows alone. -/
theorem pluck_congr {other : ResultSet} (h : set.rows = other.rows) :
    set.pluck name = other.pluck name := by
  rw [pluck, h, pluck]

/-- A cap leaves only rows that were there. -/
theorem mem_of_mem_capped {set : ResultSet} {maxRows : Option UInt64} {row : Row}
    (h : row ∈ (set.capped maxRows).rows) : row ∈ set.rows := by
  cases maxRows with
  | none => exact h
  | some max => exact List.mem_of_mem_take h

/-- A column that all rows have can be plucked. -/
theorem exists_pluck
    (h : ∀ row ∈ set.rows, name ∈ row.columns ∧ row.values.length = row.columns.length) :
    ∃ values, set.pluck name = .ok values ∧
      List.Forall₂ (fun (row : Row) v => row.Holds name v) set.rows values := by
  simp only [pluck_eq_ok_iff]
  generalize set.rows = rows at h ⊢
  induction rows with
  | nil => exact ⟨[], .nil, .nil⟩
  | cons row rows ih =>
    obtain ⟨⟨hname, hcomplete⟩, hrows⟩ := List.forall_mem_cons.mp h
    obtain ⟨v, hget, hholds⟩ := Row.exists_get? hname hcomplete
    obtain ⟨values, hvalues, hall⟩ := ih hrows
    exact ⟨v :: values, .cons hget hvalues, .cons hholds hall⟩

end ResultSet

end PolySql

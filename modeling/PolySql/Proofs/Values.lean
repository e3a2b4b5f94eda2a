import PolySql.Proofs.Fragment.Bindings
import PolySql.Proofs.Reading.Window

/-!
# The values of a statement

An emulation moves clauses around, or puts a slot for a row id between the values of two rows, but
it does not touch the values themselves.  `Query.clauseValues` lists them clause by clause, and they
are the values of the statement in every dialect (`Query.values_of_compile`).

The bounds of windows are all that a dialect has a say in.  So a query of which every select is
whole, without a window, binds the same values in every dialect (`Query.compile_values_eq`).
-/

namespace PolySql

theorem filterMap_value?_values (vs : List Value) :
    (vs.map Binding.value).filterMap Binding.value? = vs := by
  simp [List.filterMap_map, Function.comp_def, Binding.value?]

namespace Query

/-! ### Clause by clause -/

/-- The values that a query binds: those of its rows or assignments, and then those of its
conditions and of its window. -/
def clauseValues (strategy : LimitStrategy) (q : Query) : List Value :=
  match q.method with
  | .select | .pluck | .first => q.selectValues strategy
  | .insert => q.rows.flatMap fun row => q.insertColumns.map (cellValue row)
  | .update => q.assignments.map Prod.snd ++ conditionValues strategy q.conditions
  | .counter =>
    (q.counter.map fun counter => .int counter.amount.abs).toList ++
      conditionValues strategy q.conditions
  | .delete => conditionValues strategy q.conditions
  | .schema => []

theorem filterMap_value?_trailingBindings (d : Dialect) (q : Query) :
    (q.trailingBindings d).filterMap Binding.value? = [] := by
  unfold trailingBindings
  split <;> rfl

theorem filterMap_value?_rowBindings (q : Query) (row : List Cell) :
    (q.rowBindings row).filterMap Binding.value? = q.insertColumns.map (cellValue row) := by
  simp [rowBindings, List.filterMap_map, Function.comp_def, Binding.value?]

/-- The slots between the rows of a block leave the values of the rows in their order. -/
theorem filterMap_value?_insertBlock (q : Query) (columns : List String) (rows : List (List Cell))
    (start : Nat) :
    ((rows.zipIdx start).flatMap fun (row, ordinal) =>
        q.rowBindings row ++
          [.returning { column := String.intercalate ":" columns, ordinal }]).filterMap
        Binding.value? =
      rows.flatMap fun row => q.insertColumns.map (cellValue row) := by
  induction rows generalizing start with
  | nil => rfl
  | cons row rows ih =>
    rw [List.zipIdx_cons, List.flatMap_cons, List.filterMap_append, ih, List.filterMap_append,
      filterMap_value?_rowBindings, List.flatMap_cons]
    simp [Binding.value?]

theorem filterMap_value?_insertBindings (d : Dialect) (q : Query) :
    (q.insertBindings d).filterMap Binding.value? =
      q.rows.flatMap fun row => q.insertColumns.map (cellValue row) := by
  unfold insertBindings
  split
  · rename_i columns first second rest hstrategy hreturning hrows
    rw [hrows]
    exact filterMap_value?_insertBlock q columns _ 0
  · rw [List.filterMap_append, filterMap_value?_trailingBindings, List.append_nil,
      List.filterMap_flatMap]
    exact List.flatMap_congr fun row _ => q.filterMap_value?_rowBindings row

theorem filterMap_value?_boundBindings (d : Dialect) (q : Query) :
    (q.boundBindings d).filterMap Binding.value? = q.clauseValues d.limitStrategy := by
  unfold boundBindings clauseValues
  cases hmethod : q.method <;>
    simp only [List.filterMap_append, filterMap_value?_values, filterMap_value?_trailingBindings,
      List.append_nil, filterMap_value?_insertBindings, List.filterMap_nil]
  case update =>
    simp [assignmentBindings, hmethod, List.filterMap_map, Function.comp_def, Binding.value?]
  case counter =>
    cases hcounter : q.counter <;> simp [assignmentBindings, hmethod, hcounter, Binding.value?]

/-- **The values of a statement are those of the clauses of its query.** -/
theorem values_of_compile {d : Dialect} {quoting : Bool} {q : Query} {s : Statement}
    (h : q.compile d quoting = .ok s) : s.values = q.clauseValues d.limitStrategy := by
  obtain ⟨draft, hdraft, rfl⟩ := compile_eq_ok.mp h
  have hbindings : (q.statementOf (q.writer d quoting) draft).bindings = q.boundBindings d :=
    bindings_fragment (fragment_of_draft hdraft)
  rw [Statement.values, hbindings, filterMap_value?_boundBindings]

/-! ### Without windows -/

/-- Whether a query is not cut to a window: it wants all of its rows, from the first one on. -/
def Whole (q : Query) : Prop :=
  q.method ≠ .first ∧ q.limit = none ∧ q.offset = none

theorem windowValues_of_whole {q : Query} (h : q.Whole) (strategy : LimitStrategy) :
    windowValues strategy q.rowLimit q.offset = [] := by
  obtain ⟨hmethod, hlimit, hoffset⟩ := h
  rw [rowLimit, if_neg hmethod, hlimit, hoffset]
  rfl

end Query

/-- Conditions of which each binds the same values under two strategies do so together. -/
theorem conditionValues_congr {strategy strategy' : LimitStrategy} {ps : List Predicate}
    (ih : ∀ p ∈ ps, (∀ sub ∈ p.selects, sub.Whole) →
      p.boundValues strategy = p.boundValues strategy')
    (h : ∀ sub ∈ conditionSelects ps, sub.Whole) :
    conditionValues strategy ps = conditionValues strategy' ps := by
  rw [conditionValues_eq, conditionValues_eq]
  exact List.flatMap_congr fun p hp =>
    ih p hp fun sub hsub => h sub (mem_conditionSelects.mpr ⟨p, hp, hsub⟩)

/-- A condition and a query bind the same values under all strategies if their selects are whole. -/
theorem inherits_boundValues (strategy strategy' : LimitStrategy) :
    Inherits
      (fun p => (∀ sub ∈ p.selects, sub.Whole) →
        p.boundValues strategy = p.boundValues strategy')
      (fun q => (∀ sub ∈ q.selects, sub.Whole) →
        q.selectValues strategy = q.selectValues strategy') where
  compare _ _ _ _ := rfl
  inList _ _ _ := rfl
  isNull _ _ := rfl
  notNull _ _ := rfl
  raw _ _ _ := rfl
  inQuery _ _ ih h := ih h
  and _ ih h := conditionValues_congr ih h
  or _ ih h := conditionValues_congr ih h
  not _ ih h := ih h
  query q ih h := by
    have hself : q.Whole := h q (Query.mem_selects.mpr (.inl rfl))
    have hconditions := conditionValues_congr ih fun sub hsub =>
      h sub (Query.mem_selects.mpr (.inr hsub))
    rw [conditionValues_eq, conditionValues_eq] at hconditions
    rw [Query.selectValues_eq, Query.selectValues_eq, hconditions,
      Query.windowValues_of_whole hself, Query.windowValues_of_whole hself]

namespace Query

theorem clauseValues_congr {q : Query} (h : ∀ sub ∈ q.selects, sub.Whole)
    (strategy strategy' : LimitStrategy) :
    q.clauseValues strategy = q.clauseValues strategy' := by
  have hselect : q.selectValues strategy = q.selectValues strategy' :=
    of_inherits (inherits_boundValues strategy strategy') q h
  have hconditions : conditionValues strategy q.conditions =
      conditionValues strategy' q.conditions :=
    conditionValues_congr
      (fun p _ => Predicate.of_inherits (inherits_boundValues strategy strategy') p)
      fun sub hsub => h sub (mem_selects.mpr (.inr hsub))
  unfold clauseValues
  cases q.method <;> simp only [hselect, hconditions]

/-- **Bound values do not depend on the dialect.**  If neither a query nor any query inside its
conditions is cut to a window, its statements for any two dialects, with identifiers quoted or not,
bind the same values in the same order, whatever stands between the values. -/
theorem compile_values_eq {q : Query} (hwhole : ∀ sub ∈ q.selects, sub.Whole)
    {d d' : Dialect} {quoting quoting' : Bool} {s s' : Statement}
    (h : q.compile d quoting = .ok s) (h' : q.compile d' quoting' = .ok s') :
    s.values = s'.values := by
  rw [values_of_compile h, values_of_compile h']
  exact clauseValues_congr hwhole d.limitStrategy d'.limitStrategy

/-- An insert of two uneven rows that hands columns back. -/
def insertUneven : Query :=
  { Query.insert "stock.items" [[("id", .int 1), ("count", .int 5)], [("note", .text "x")]] with
    returning := some ["id", "count"] }

/-- In one dialect the rows are inserted one by one, with slots between the values, in the other one
together. -/
theorem compile_values_eq_insertUneven :
    (∀ sub ∈ insertUneven.selects, sub.Whole) ∧
      ∃ s s', insertUneven.compile .oracle true = .ok s ∧
        insertUneven.compile .mssql false = .ok s' ∧
        s.bindings.length = 8 ∧ s'.bindings.length = 6 ∧ s.values = s'.values := by
  have hwhole : ∀ sub ∈ insertUneven.selects, sub.Whole := by
    simp [insertUneven, Query.insert, selects, conditionSelects, Whole]
  exact ⟨hwhole, _, _, compile_of_draft rfl, compile_of_draft rfl, rfl, rfl,
    compile_values_eq hwhole (compile_of_draft rfl) (compile_of_draft rfl)⟩

end Query

end PolySql

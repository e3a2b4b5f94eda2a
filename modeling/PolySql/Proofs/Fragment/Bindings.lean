import PolySql.Proofs.Fragment.Window
import PolySql.Proofs.Nesting

/-!
# The bindings of a query, clause by clause

`Query.boundBindings` lists what a query binds in the order of its clauses, without a look at any
text: the values of each condition where the condition stands, those of a query inside a condition
in the condition's place, the bounds of a window last, and a slot for the row id after the row that
it belongs to.  The fragment of the query binds exactly that (`Query.bindings_fragment`).
-/

namespace PolySql

/-! ### Conditions and selects -/

mutual

/-- The values that a condition binds. -/
def Predicate.boundValues (strategy : LimitStrategy) : Predicate → List Value
  | .compare _ _ v => [v]
  | .inList _ values => values
  | .inQuery _ query => query.selectValues strategy
  | .raw _ values => values
  | .and children => conditionValues strategy children
  | .or children => conditionValues strategy children
  | .not child => child.boundValues strategy
  | _ => []

/-- The values that conditions bind. -/
def conditionValues (strategy : LimitStrategy) : List Predicate → List Value
  | [] => []
  | p :: ps => p.boundValues strategy ++ conditionValues strategy ps

/-- The values that the select of a query binds. -/
def Query.selectValues (strategy : LimitStrategy) : Query → List Value
  | q@{ conditions, .. } =>
    conditionValues strategy conditions ++ windowValues strategy q.rowLimit q.offset

end

theorem conditionValues_eq (strategy : LimitStrategy) (ps : List Predicate) :
    conditionValues strategy ps = ps.flatMap (Predicate.boundValues strategy) := by
  induction ps with
  | nil => rfl
  | cons p ps ih => rw [conditionValues, ih, List.flatMap_cons]

theorem Query.selectValues_eq (strategy : LimitStrategy) (q : Query) :
    q.selectValues strategy =
      q.conditions.flatMap (Predicate.boundValues strategy) ++
        windowValues strategy q.rowLimit q.offset := by
  cases q
  rw [Query.selectValues, conditionValues_eq]

namespace Fragment

theorem bindings_flatten (fs : List Fragment) :
    bindings fs.flatten = fs.flatMap bindings := by
  induction fs with
  | nil => rfl
  | cons f fs ih => rw [List.flatten_cons, bindings_append, ih, List.flatMap_cons]

/-- The texts between fragments bind nothing. -/
theorem bindings_joined (separator : String) (fs : List Fragment) :
    bindings (joined separator fs) = fs.flatMap bindings := by
  induction fs with
  | nil => rfl
  | cons f fs ih =>
    cases fs with
    | nil => simp
    | cons g fs =>
      rw [joined_cons_cons, bindings_append, bindings_text_cons, ih]
      rfl

theorem bindings_wrapped (before after : String) (f : Fragment) :
    bindings (wrapped before after f) = bindings f := by
  simp [wrapped]

theorem bindings_joined_map {α : Type} {separator : String} (items : List α) (g : α → Fragment)
    (h : ∀ item ∈ items, bindings (g item) = []) :
    bindings (joined separator (items.map g)) = [] := by
  rw [bindings_joined, List.flatMap_map]
  simpa [List.flatMap_eq_nil_iff] using h

@[simp] theorem bindings_valueList (values : List Value) :
    bindings (valueList values) = values.map .value := by
  rw [valueList, bindings_joined, List.flatMap_map]
  induction values with
  | nil => rfl
  | cons v values ih => rw [List.flatMap_cons, ih, List.map_cons]; rfl

@[simp] theorem bindings_selectList (style : AliasStyle) (items : List String) :
    bindings (selectList style items) = [] := by
  unfold selectList
  split
  · rfl
  · refine bindings_joined_map items _ fun item _ => ?_
    unfold selectItem
    split <;> rfl

@[simp] theorem bindings_orderBy (keys : List OrderKey) : bindings (orderBy keys) = [] := by
  unfold orderBy
  split
  · rfl
  · rw [bindings_text_cons]
    exact bindings_joined_map keys _ fun _ _ => rfl

@[simp] theorem bindings_selectHead (d : Dialect) (q : Query) :
    bindings (selectHead d q) = [] := by
  have hjoins : bindings (q.joins.flatMap join) = [] := by
    rw [List.flatMap_def, bindings_flatten, List.flatMap_map]
    simp [List.flatMap_eq_nil_iff, join]
  simp [selectHead, hjoins]

theorem bindings_whereClause (conditions : List Fragment) :
    bindings (whereClause conditions) = conditions.flatMap bindings := by
  unfold whereClause
  split
  · simp_all
  · rw [bindings_text_cons, bindings_joined]

end Fragment

/-- Conditions bind what each of them binds. -/
theorem bindings_conditionFragments {d : Dialect} {ps : List Predicate} {fs : List Fragment}
    (ih : ∀ p ∈ ps, ∀ f, p.fragment d = .ok f →
      f.bindings = (p.boundValues d.limitStrategy).map .value)
    (h : conditionFragments d ps = .ok fs) :
    fs.flatMap Fragment.bindings =
      (ps.flatMap (Predicate.boundValues d.limitStrategy)).map .value := by
  induction conditionFragments_eq_ok.mp h with
  | nil => rfl
  | cons hhead htail ihtail =>
    rw [List.flatMap_cons, List.flatMap_cons, List.map_append,
      ih _ List.mem_cons_self _ hhead,
      ihtail (fun p hp => ih p (List.mem_cons_of_mem _ hp)) (conditionFragments_eq_ok.mpr htail)]

/-- A condition and a query bind their values in the order of their parts. -/
theorem bindings_inherits (d : Dialect) :
    Inherits
      (fun p => ∀ f, p.fragment d = .ok f →
        f.bindings = (p.boundValues d.limitStrategy).map .value)
      (fun q => ∀ f, q.selectFragment d = .ok f →
        f.bindings = (q.selectValues d.limitStrategy).map .value) where
  compare column op v := by
    intro f hf
    obtain rfl := Predicate.fragment_eq_ok.mp hf
    simp [Predicate.boundValues]
  inList column values := by
    intro f hf
    obtain rfl := Predicate.fragment_eq_ok.mp hf
    split <;> simp_all [Predicate.boundValues]
  inQuery column query ih := by
    intro f hf
    obtain ⟨select, hselect, rfl⟩ := Predicate.fragment_eq_ok.mp hf
    simp [Predicate.boundValues, ih select hselect]
  isNull column := by
    intro f hf
    obtain rfl := Predicate.fragment_eq_ok.mp hf
    simp [Predicate.boundValues]
  notNull column := by
    intro f hf
    obtain rfl := Predicate.fragment_eq_ok.mp hf
    simp [Predicate.boundValues]
  raw sql values := by
    intro f hf
    obtain rfl := Predicate.fragment_eq_ok.mp hf
    simp [Predicate.boundValues, Fragment.bindings_cons, Piece.bindings]
  and children ih := by
    intro f hf
    obtain ⟨fs, hfs, rfl⟩ := Predicate.fragment_eq_ok.mp hf
    rw [Predicate.boundValues, conditionValues_eq, ← bindings_conditionFragments ih hfs]
    split
    · simp_all [conditionFragments]
    · rw [Fragment.bindings_wrapped, Fragment.bindings_joined]
  or children ih := by
    intro f hf
    obtain ⟨fs, hfs, rfl⟩ := Predicate.fragment_eq_ok.mp hf
    rw [Predicate.boundValues, conditionValues_eq, ← bindings_conditionFragments ih hfs]
    split
    · simp_all [conditionFragments]
    · rw [Fragment.bindings_wrapped, Fragment.bindings_joined]
  not child ih := by
    intro f hf
    obtain ⟨inner, hinner, rfl⟩ := Predicate.fragment_eq_ok.mp hf
    rw [Fragment.bindings_wrapped, Predicate.boundValues, ih inner hinner]
  query q ih := by
    intro f hf
    obtain ⟨fs, hfs, hf⟩ := Query.selectFragment_eq_ok.mp hf
    obtain ⟨hopening, hclosing⟩ := Fragment.bindings_window d.limitStrategy (!q.ordering.isEmpty)
      q.rowLimit q.offset
    rw [Fragment.windowed_eq_ok hf, Fragment.bindings_append, Fragment.bindings_append, hopening,
      hclosing, Fragment.bindings_append, Fragment.bindings_append, Fragment.bindings_selectHead,
      Fragment.bindings_whereClause, Fragment.bindings_orderBy, bindings_conditionFragments ih hfs,
      Query.selectValues_eq]
    simp

/-! ### Changes -/

namespace Query

/-- The slot at the end of a change whose rows are fetched by row id. -/
def trailingBindings (d : Dialect) (q : Query) : List Binding :=
  match d.returningStrategy, q.returningColumns? with
  | .refetch, some columns => [.returning { column := String.intercalate ":" columns, ordinal := 0 }]
  | _, _ => []

/-- The values of a row of an insert, column by column. -/
def rowBindings (q : Query) (row : List Cell) : List Binding :=
  q.insertColumns.map fun column => .value (cellValue row column)

/-- The bindings of an insert: row by row, with a slot after each row where every row is inserted on
its own. -/
def insertBindings (d : Dialect) (q : Query) : List Binding :=
  match d.returningStrategy, q.returningColumns?, q.rows with
  | .refetch, some columns, _ :: _ :: _ =>
    q.rows.zipIdx.flatMap fun (row, ordinal) =>
      q.rowBindings row ++
        [.returning { column := String.intercalate ":" columns, ordinal }]
  | _, _, _ => q.rows.flatMap q.rowBindings ++ q.trailingBindings d

/-- The bindings of an update or a counter up to its conditions. -/
def assignmentBindings (q : Query) : List Binding :=
  if q.method = .counter then
    (q.counter.map fun counter => .value (.int counter.amount.abs)).toList
  else q.assignments.map fun cell => .value cell.2

/-- The bindings of a query, in the order of its clauses. -/
def boundBindings (d : Dialect) (q : Query) : List Binding :=
  match q.method with
  | .select | .pluck | .first => (q.selectValues d.limitStrategy).map .value
  | .insert => q.insertBindings d
  | .update | .counter =>
    q.assignmentBindings ++ (conditionValues d.limitStrategy q.conditions).map .value ++
      q.trailingBindings d
  | .delete => (conditionValues d.limitStrategy q.conditions).map .value ++ q.trailingBindings d
  | .schema => []

theorem bindings_output (d : Dialect) (pseudoTable : String) (q : Query) :
    (Fragment.output d pseudoTable q.returningColumns?).bindings = [] := by
  unfold Fragment.output
  split
  · rw [Fragment.bindings_text_cons]
    exact Fragment.bindings_joined_map _ _ fun _ _ => rfl
  · rfl

theorem bindings_trailingReturning (d : Dialect) (q : Query) :
    (Draft.trailingReturning d q.table q.returningColumns?).fragment.bindings =
      q.trailingBindings d := by
  unfold Draft.trailingReturning trailingBindings
  cases q.returningColumns? with
  | none => cases d.returningStrategy <;> rfl
  | some columns =>
    cases d.returningStrategy with
    | native => simp
    | output => rfl
    | refetch => rfl

theorem bindings_insertTarget (table : String) (columns : List String) :
    (Fragment.insertTarget table columns).bindings = [] := by
  have hlist : (Fragment.identList columns).bindings = [] :=
    Fragment.bindings_joined_map _ _ fun _ _ => rfl
  simp [Fragment.insertTarget, hlist]

theorem bindings_rowValues (q : Query) (row : List Cell) :
    (Fragment.rowValues q.insertColumns row).bindings = q.rowBindings row := by
  rw [Fragment.rowValues, Fragment.bindings_valueList, List.map_map]
  rfl

theorem bindings_insertBlock (d : Dialect) (q : Query) (returning : List String) :
    (Draft.insertBlock d q.table q.insertColumns q.rows returning).fragment.bindings =
      q.rows.zipIdx.flatMap fun (row, ordinal) =>
        q.rowBindings row ++
          [.returning { column := String.intercalate ":" returning, ordinal }] := by
  rw [Draft.fragment_insertBlock, List.cons_append, Fragment.bindings_text_cons,
    Fragment.bindings_append, List.flatMap_def, Fragment.bindings_flatten, List.flatMap_map]
  simp [bindings_insertTarget, bindings_rowValues, Fragment.insertWithSlot, Fragment.rowIdSlot]

theorem bindings_insertAll (q : Query) :
    (Fragment.insertAll q.table q.insertColumns q.rows).bindings =
      q.rows.flatMap q.rowBindings := by
  rw [Fragment.insertAll, List.cons_append, Fragment.bindings_text_cons,
    Fragment.bindings_append, List.flatMap_def, Fragment.bindings_flatten, List.flatMap_map]
  simp [bindings_insertTarget, bindings_rowValues]

theorem bindings_insertRows (d : Dialect) (q : Query) :
    (Draft.insertRows d q.table q.insertColumns q.rows q.returningColumns?).fragment.bindings =
      q.rows.flatMap q.rowBindings ++ q.trailingBindings d := by
  simp [Draft.insertRows, bindings_insertTarget, bindings_output, Fragment.bindings_joined,
    List.flatMap_map, Fragment.bindings_wrapped, bindings_rowValues, bindings_trailingReturning]

theorem bindings_insertBody (d : Dialect) (q : Query) :
    (q.insertBody d).fragment.bindings = q.insertBindings d := by
  unfold insertBody insertBindings
  split_ifs with hblock
  · obtain ⟨hstrategy, hlength⟩ := hblock
    -- with two rows or more the bindings are listed row by row, as the block has them
    obtain ⟨first, second, rest, hrows⟩ :
        ∃ first second rest, q.rows = first :: second :: rest := by
      match hrows : q.rows, hlength with
      | first :: second :: rest, _ => exact ⟨first, second, rest, rfl⟩
    cases hreturning : q.returningColumns? with
    | none =>
      have htrailing : q.trailingBindings d = [] := by
        simp [trailingBindings, hreturning]
      simp [hstrategy, htrailing, bindings_insertAll]
    | some returning =>
      rw [bindings_insertBlock, hstrategy, hrows]
  · rw [bindings_insertRows]
    split
    · rename_i columns first second rest hstrategy hreturning hrows
      exact absurd ⟨hstrategy, by simp [hrows]⟩ hblock
    · rfl

theorem bindings_changeFragment {q : Query} {f : Fragment} (h : q.changeFragment = .ok f) :
    f.bindings = q.assignmentBindings := by
  unfold changeFragment at h
  unfold assignmentBindings
  split_ifs at h ⊢
  · obtain ⟨column, amount, hcounter, -, rfl⟩ := counterFragment_eq_ok.mp h
    simp [hcounter]
  · obtain ⟨-, rfl⟩ := setFragment_eq_ok.mp h
    rw [Fragment.bindings_joined, List.flatMap_map, List.map_eq_flatMap]
    rfl

/-- **A query binds what its clauses ask for, in their order.** -/
theorem bindings_fragment {d : Dialect} {q : Query} {f : Fragment} (h : q.fragment d = .ok f) :
    f.bindings = q.boundBindings d := by
  have hselect : ∀ f, q.selectFragment d = .ok f →
      f.bindings = (q.selectValues d.limitStrategy).map .value :=
    of_inherits (bindings_inherits d) q
  have hconditions : ∀ fs, conditionFragments d q.conditions = .ok fs →
      fs.flatMap Fragment.bindings =
        (conditionValues d.limitStrategy q.conditions).map .value := fun fs hfs => by
    rw [conditionValues_eq]
    exact bindings_conditionFragments
      (fun p _ => Predicate.of_inherits (bindings_inherits d) p) hfs
  obtain ⟨-, h⟩ := fragment_eq_ok.mp h
  -- updates and counters differ in their assignments alone
  have hupdate : q.updateFragment d = .ok f → f.bindings =
      q.assignmentBindings ++ (conditionValues d.limitStrategy q.conditions).map .value ++
        q.trailingBindings d := by
    intro h
    obtain ⟨assignments, conditions, hassignments, hfs, rfl⟩ := updateFragment_eq_ok.mp h
    simp [bindings_changeFragment hassignments, bindings_output, Fragment.bindings_whereClause,
      hconditions conditions hfs, bindings_trailingReturning]
  unfold boundBindings
  cases hmethod : q.method <;> simp only [hmethod] at h
  case select => exact hselect f h
  case pluck => exact hselect f h
  case first => exact hselect f h
  case insert =>
    obtain ⟨-, -, rfl⟩ := insertFragment_eq_ok.mp h
    exact bindings_insertBody d q
  case update => exact hupdate h
  case counter => exact hupdate h
  case delete =>
    obtain ⟨-, conditions, hfs, rfl⟩ := deleteFragment_eq_ok.mp h
    simp [bindings_output, Fragment.bindings_whereClause, hconditions conditions hfs,
      bindings_trailingReturning]

end Query

end PolySql

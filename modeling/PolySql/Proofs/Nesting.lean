import Mathlib.Tactic.Tauto
import PolySql.Query.Basic

/-!
# Conditions and queries inside each other

A condition may hold a query, whose conditions may hold queries again.  `Inherits P Q` says that a
compound condition inherits `P` from its parts and a query `Q` from its conditions; then all
conditions have `P` and all queries `Q` (`Predicate.of_inherits`, `Query.of_inherits`).  This is the
one induction that the statements about both go through.

`Query.names` are the texts that a query gives as identifiers, at any depth, and `Query.raws` its
conditions in SQL with their values.
-/

namespace PolySql

/-! ### Induction -/

/-- Every kind of condition has `P` and every query has `Q` as soon as their parts do. -/
structure Inherits (P : Predicate → Prop) (Q : Query → Prop) : Prop where
  compare : ∀ column op v, P (.compare column op v)
  inList : ∀ column values, P (.inList column values)
  inQuery : ∀ column query, Q query → P (.inQuery column query)
  isNull : ∀ column, P (.isNull column)
  notNull : ∀ column, P (.notNull column)
  raw : ∀ sql values, P (.raw sql values)
  and : ∀ children, (∀ p ∈ children, P p) → P (.and children)
  or : ∀ children, (∀ p ∈ children, P p) → P (.or children)
  not : ∀ child, P child → P (.not child)
  query : ∀ q : Query, (∀ p ∈ q.conditions, P p) → Q q

section Induction

variable {P : Predicate → Prop} {Q : Query → Prop}

mutual

theorem Predicate.of_inherits (h : Inherits P Q) : ∀ p, P p
  | .compare column op v => h.compare column op v
  | .inList column values => h.inList column values
  | .inQuery column query => h.inQuery column query (Query.of_inherits h query)
  | .isNull column => h.isNull column
  | .notNull column => h.notNull column
  | .raw sql values => h.raw sql values
  | .and children => h.and children (conditions_of_inherits h children)
  | .or children => h.or children (conditions_of_inherits h children)
  | .not child => h.not child (Predicate.of_inherits h child)

theorem conditions_of_inherits (h : Inherits P Q) : ∀ ps : List Predicate, ∀ p ∈ ps, P p
  | [], p, hp => absurd hp List.not_mem_nil
  | head :: tail, p, hp => by
    -- both recursive calls stand outside of the case split, where they are seen to be structural
    have hhead : P head := Predicate.of_inherits h head
    have htail : ∀ p ∈ tail, P p := conditions_of_inherits h tail
    rcases List.mem_cons.mp hp with rfl | hp
    · exact hhead
    · exact htail p hp

theorem Query.of_inherits (h : Inherits P Q) : ∀ q, Q q
  | ⟨_, _, _, _, _, _, _, conditions, _, _, _, _, _, _, _⟩ =>
    h.query _ (conditions_of_inherits h conditions)

end

end Induction

/-! ### What a query mentions -/

namespace Query

/-- The texts that a query gives as identifiers, those of its conditions left out. -/
def ownNames (q : Query) : List String :=
  q.table :: q.columns ++ q.rows.flatMap (fun row => row.map Prod.fst) ++
    q.assignments.map Prod.fst ++ (q.counter.map Counter.column).toList ++
    q.joins.flatMap (fun j => [j.table, j.left, j.right]) ++ q.ordering.map OrderKey.column ++
    q.returning.getD [] ++ q.pluck.toList

end Query

mutual

/-- The texts that a condition gives as identifiers, at any depth. -/
def Predicate.names : Predicate → List String
  | .compare column _ _ => [column]
  | .inList column _ => [column]
  | .inQuery column query => column :: query.names
  | .isNull column => [column]
  | .notNull column => [column]
  | .raw _ _ => []
  | .and children => conditionNames children
  | .or children => conditionNames children
  | .not child => child.names

/-- The texts that conditions give as identifiers, at any depth. -/
def conditionNames : List Predicate → List String
  | [] => []
  | p :: ps => p.names ++ conditionNames ps

/-- The texts that a query gives as identifiers, at any depth. -/
def Query.names : Query → List String
  | q@{ conditions, .. } => q.ownNames ++ conditionNames conditions

end

mutual

/-- The conditions in SQL inside a condition, at any depth, each with its values. -/
def Predicate.raws : Predicate → List (String × List Value)
  | .inQuery _ query => query.raws
  | .raw sql values => [(sql, values)]
  | .and children => conditionRaws children
  | .or children => conditionRaws children
  | .not child => child.raws
  | _ => []

/-- The conditions in SQL inside conditions, at any depth, each with its values. -/
def conditionRaws : List Predicate → List (String × List Value)
  | [] => []
  | p :: ps => p.raws ++ conditionRaws ps

/-- The conditions in SQL inside a query, at any depth, each with its values. -/
def Query.raws : Query → List (String × List Value)
  | { conditions, .. } => conditionRaws conditions

end

theorem conditionNames_eq (ps : List Predicate) :
    conditionNames ps = ps.flatMap Predicate.names := by
  induction ps with
  | nil => rfl
  | cons p ps ih => rw [conditionNames, ih, List.flatMap_cons]

theorem conditionRaws_eq (ps : List Predicate) : conditionRaws ps = ps.flatMap Predicate.raws := by
  induction ps with
  | nil => rfl
  | cons p ps ih => rw [conditionRaws, ih, List.flatMap_cons]

theorem Query.names_eq (q : Query) :
    q.names = q.ownNames ++ q.conditions.flatMap Predicate.names := by
  cases q
  rw [Query.names, conditionNames_eq]

theorem Query.raws_eq (q : Query) : q.raws = q.conditions.flatMap Predicate.raws := by
  cases q
  rw [Query.raws, conditionRaws_eq]

namespace Query

theorem mem_names_of_mem_ownNames {q : Query} {name : String} (h : name ∈ q.ownNames) :
    name ∈ q.names := by
  rw [names_eq]
  exact List.mem_append_left _ h

theorem table_mem_ownNames (q : Query) : q.table ∈ q.ownNames := by
  simp [ownNames]

theorem mem_ownNames_of_mem_selectColumns {q : Query} {column : String}
    (h : column ∈ q.selectColumns) : column ∈ q.ownNames := by
  unfold selectColumns at h
  split at h <;> simp_all [ownNames]

theorem mem_ownNames_of_mem_joins {q : Query} {j : Join} (h : j ∈ q.joins) {name : String}
    (hname : name ∈ [j.table, j.left, j.right]) : name ∈ q.ownNames := by
  have hjoins : name ∈ q.joins.flatMap fun j => [j.table, j.left, j.right] :=
    List.mem_flatMap.mpr ⟨j, h, hname⟩
  simp only [ownNames, List.mem_append]
  tauto

theorem mem_ownNames_of_mem_ordering {q : Query} {key : OrderKey} (h : key ∈ q.ordering) :
    key.column ∈ q.ownNames := by
  have hkeys : key.column ∈ q.ordering.map OrderKey.column := List.mem_map_of_mem h
  simp only [ownNames, List.mem_append]
  tauto

theorem mem_ownNames_of_mem_rows {q : Query} {name : String}
    (h : name ∈ q.rows.flatMap fun row => row.map Prod.fst) : name ∈ q.ownNames := by
  simp only [ownNames, List.mem_append]
  tauto

theorem mem_ownNames_of_mem_assignments {q : Query} {cell : Cell} (h : cell ∈ q.assignments) :
    cell.1 ∈ q.ownNames := by
  have hcells : cell.1 ∈ q.assignments.map Prod.fst := List.mem_map_of_mem h
  simp only [ownNames, List.mem_append]
  tauto

theorem mem_ownNames_of_counter {q : Query} {counter : Counter} (h : q.counter = some counter) :
    counter.column ∈ q.ownNames := by
  simp [ownNames, h]

theorem mem_ownNames_of_mem_returningColumns {q : Query} {column : String}
    (h : column ∈ q.returningColumns?.getD []) : column ∈ q.ownNames := by
  have hreturning : column ∈ q.returning.getD [] := by
    unfold returningColumns? at h
    cases hq : q.returning with
    | none => simp [hq] at h
    | some columns =>
      rw [hq] at h
      cases columns <;> exact h
  simp only [ownNames, List.mem_append]
  tauto

end Query

end PolySql

import PolySql.Proofs.Fragment.Window
import PolySql.Proofs.Nesting

/-!
# Selects inside each other

`Query.subqueries` are the queries in the conditions of a statement, at any depth, and
`Query.writtenSelects` all selects that are written into it: these, and its own, if it is one.  The
fragment of each of them stands as a whole in the fragment of the statement
(`Query.holds_writtenSelects`), that of a query in a condition in parentheses
(`Query.encloses_subqueries`).
-/

namespace PolySql

/-! ### The queries of a statement -/

mutual

/-- The selects that are written into a condition, at any depth. -/
def Predicate.selects : Predicate → List Query
  | .inQuery _ query => query.selects
  | .and children => conditionSelects children
  | .or children => conditionSelects children
  | .not child => child.selects
  | _ => []

/-- The selects that are written into conditions, at any depth. -/
def conditionSelects : List Predicate → List Query
  | [] => []
  | p :: ps => p.selects ++ conditionSelects ps

/-- The selects that are written for a query, itself and those in its conditions, at any depth. -/
def Query.selects : Query → List Query
  | q@{ conditions, .. } => q :: conditionSelects conditions

end

theorem mem_conditionSelects {ps : List Predicate} {sub : Query} :
    sub ∈ conditionSelects ps ↔ ∃ p ∈ ps, sub ∈ p.selects := by
  induction ps with
  | nil => simp [conditionSelects]
  | cons p ps ih => simp [conditionSelects, ih]

theorem Query.mem_selects {q sub : Query} :
    sub ∈ q.selects ↔ sub = q ∨ sub ∈ conditionSelects q.conditions := by
  cases q
  rw [Query.selects, List.mem_cons]

/-- The selects that are written into the statement of a query. -/
def Query.writtenSelects (q : Query) : List Query :=
  match q.method with
  | .select | .pluck | .first => q.selects
  | .update | .counter | .delete => conditionSelects q.conditions
  | .insert | .schema => []

/-- The queries in the conditions that are written into the statement of a query, at any depth. -/
def Query.subqueries (q : Query) : List Query :=
  match q.method with
  | .insert | .schema => []
  | _ => conditionSelects q.conditions

theorem Query.mem_writtenSelects {q sub : Query} :
    sub ∈ q.writtenSelects ↔ (q.method.isSelect ∧ sub = q) ∨ sub ∈ q.subqueries := by
  unfold writtenSelects subqueries
  cases q.method <;> simp [Method.isSelect, mem_selects]

/-! ### Fragments inside each other -/

namespace Fragment

theorem infix_joined (separator : String) {f : Fragment} {fs : List Fragment} (h : f ∈ fs) :
    f <:+: joined separator fs := by
  induction fs with
  | nil => exact absurd h List.not_mem_nil
  | cons g fs ih =>
    cases fs with
    | nil =>
      obtain rfl := List.mem_singleton.mp h
      exact ⟨[], [], by simp⟩
    | cons next fs =>
      rw [joined_cons_cons]
      rcases List.mem_cons.mp h with rfl | h
      · exact (List.prefix_append _ _).isInfix
      · exact (ih h).trans ((List.suffix_cons _ _).trans (List.suffix_append _ _)).isInfix

theorem infix_wrapped (before after : String) (f : Fragment) : f <:+: wrapped before after f :=
  ⟨[.text before], [.text after], rfl⟩

theorem infix_whereClause {f : Fragment} {fs : List Fragment} (h : f ∈ fs) :
    f <:+: whereClause fs := by
  have hfs : ¬ fs.isEmpty := by
    cases fs with
    | nil => exact absurd h List.not_mem_nil
    | cons => simp
  rw [whereClause, if_neg hfs]
  exact (infix_joined " and " h).trans (List.suffix_cons _ _).isInfix

/-- The conditions of a group stand in it; the text for an empty group holds none. -/
theorem infix_group {d : Dialect} {ps : List Predicate} {fs : List Fragment}
    (h : conditionFragments d ps = .ok fs) (separator empty : String) {f : Fragment}
    (hf : f ∈ fs) :
    f <:+: if ps.isEmpty then [.text empty] else wrapped "(" ")" (joined separator fs) := by
  obtain ⟨p, hp, -⟩ := exists_of_mem_conditionFragments h hf
  have hps : ¬ ps.isEmpty := by
    cases ps with
    | nil => exact absurd hp List.not_mem_nil
    | cons => simp
  rw [if_neg hps]
  exact (infix_joined separator hf).trans (infix_wrapped _ _ _)

/-- Whether the fragment of each of some selects stands as a whole in a fragment. -/
def Holds (d : Dialect) (selects : List Query) (f : Fragment) : Prop :=
  ∀ sub ∈ selects, ∃ g, sub.selectFragment d = .ok g ∧ g <:+: f

/-- Whether the fragment of each of some selects stands in parentheses in a fragment. -/
def Encloses (d : Dialect) (selects : List Query) (f : Fragment) : Prop :=
  ∀ sub ∈ selects, ∃ g, sub.selectFragment d = .ok g ∧ wrapped "(" ")" g <:+: f

theorem Encloses.mono {d : Dialect} {selects : List Query} {f g : Fragment}
    (h : f.Encloses d selects) (hfg : f <:+: g) : g.Encloses d selects := by
  intro sub hsub
  obtain ⟨e, he, hef⟩ := h sub hsub
  exact ⟨e, he, hef.trans hfg⟩

/-- A fragment in which conditions stand encloses the selects of the conditions. -/
theorem encloses_conditionSelects {d : Dialect} {ps : List Predicate} {fs : List Fragment}
    {f : Fragment} (ih : ∀ p ∈ ps, ∀ g, p.fragment d = .ok g → g.Encloses d p.selects)
    (hfs : conditionFragments d ps = .ok fs) (hf : ∀ g ∈ fs, g <:+: f) :
    f.Encloses d (conditionSelects ps) := by
  intro sub hsub
  obtain ⟨p, hp, hsub⟩ := mem_conditionSelects.mp hsub
  obtain ⟨g, hg, hpg⟩ := exists_mem_conditionFragments hfs hp
  exact (ih p hp g hpg).mono (hf g hg) sub hsub

end Fragment

/-- What a condition and a query have when each encloses the selects in its conditions. -/
theorem inherits_encloses (d : Dialect) :
    Inherits (fun p => ∀ f, p.fragment d = .ok f → f.Encloses d p.selects)
      (fun q => ∀ f, q.selectFragment d = .ok f →
        f.Encloses d (conditionSelects q.conditions)) where
  compare := by simp [Predicate.selects, Fragment.Encloses]
  inList := by simp [Predicate.selects, Fragment.Encloses]
  isNull := by simp [Predicate.selects, Fragment.Encloses]
  notNull := by simp [Predicate.selects, Fragment.Encloses]
  raw := by simp [Predicate.selects, Fragment.Encloses]
  inQuery column query ih f hf sub hsub := by
    obtain ⟨select, hselect, rfl⟩ := Predicate.fragment_eq_ok.mp hf
    -- the query itself is what the parentheses of the condition are for
    rcases Query.mem_selects.mp hsub with rfl | hsub
    · exact ⟨select, hselect, [.ident column, .text " in "], [], by simp [Fragment.wrapped]⟩
    · exact (ih select hselect).mono (List.infix_append _ _ _) sub hsub
  and children ih f hf := by
    obtain ⟨fs, hfs, rfl⟩ := Predicate.fragment_eq_ok.mp hf
    exact Fragment.encloses_conditionSelects ih hfs fun g => Fragment.infix_group hfs _ _
  or children ih f hf := by
    obtain ⟨fs, hfs, rfl⟩ := Predicate.fragment_eq_ok.mp hf
    exact Fragment.encloses_conditionSelects ih hfs fun g => Fragment.infix_group hfs _ _
  not child ih f hf := by
    obtain ⟨inner, hinner, rfl⟩ := Predicate.fragment_eq_ok.mp hf
    exact (ih inner hinner).mono (Fragment.infix_wrapped _ _ _)
  query q ih f hf := by
    obtain ⟨fs, hfs, hwindow⟩ := Query.selectFragment_eq_ok.mp hf
    refine Fragment.encloses_conditionSelects ih hfs fun g hg => ?_
    rw [Fragment.windowed_eq_ok hwindow]
    exact ((Fragment.infix_whereClause hg).trans (List.infix_append _ _ _)).trans
      (List.infix_append _ _ _)

namespace Query

variable {d : Dialect} {q : Query} {f : Fragment}

/-- **The queries in conditions stand in parentheses.** -/
theorem encloses_subqueries (h : q.fragment d = .ok f) : f.Encloses d q.subqueries := by
  have hconditions := fun p (_ : p ∈ q.conditions) =>
    Predicate.of_inherits (inherits_encloses d) p
  obtain ⟨-, h⟩ := fragment_eq_ok.mp h
  unfold subqueries
  cases hmethod : q.method <;> simp only [hmethod] at h ⊢
  case select => exact Query.of_inherits (inherits_encloses d) q f h
  case pluck => exact Query.of_inherits (inherits_encloses d) q f h
  case first => exact Query.of_inherits (inherits_encloses d) q f h
  case insert => simp [Fragment.Encloses]
  case update =>
    obtain ⟨_, conditions, -, hfs, rfl⟩ := updateFragment_eq_ok.mp h
    exact Fragment.encloses_conditionSelects hconditions hfs fun g hg =>
      (Fragment.infix_whereClause hg).trans (List.infix_append _ _ _)
  case counter =>
    obtain ⟨_, conditions, -, hfs, rfl⟩ := updateFragment_eq_ok.mp h
    exact Fragment.encloses_conditionSelects hconditions hfs fun g hg =>
      (Fragment.infix_whereClause hg).trans (List.infix_append _ _ _)
  case delete =>
    obtain ⟨-, conditions, hfs, rfl⟩ := deleteFragment_eq_ok.mp h
    exact Fragment.encloses_conditionSelects hconditions hfs fun g hg =>
      (Fragment.infix_whereClause hg).trans (List.infix_append _ _ _)

/-- **The selects of a statement stand in it as wholes.** -/
theorem holds_writtenSelects (h : q.fragment d = .ok f) : f.Holds d q.writtenSelects := by
  intro sub hsub
  rcases mem_writtenSelects.mp hsub with ⟨hmethod, rfl⟩ | hsub
  · obtain ⟨-, h⟩ := fragment_eq_ok.mp h
    cases hm : sub.method <;> simp only [hm] at h hmethod
    case select => exact ⟨f, h, List.infix_rfl⟩
    case pluck => exact ⟨f, h, List.infix_rfl⟩
    case first => exact ⟨f, h, List.infix_rfl⟩
    all_goals exact absurd hmethod (by decide)
  · obtain ⟨g, hg, hfg⟩ := encloses_subqueries h sub hsub
    exact ⟨g, hg, (Fragment.infix_wrapped _ _ _).trans hfg⟩

end Query

end PolySql

import PolySql.Proofs.Refusal

/-!
# What is checked of a query inside of a condition

A query in a condition is written as a select, whatever its method, and it brings
nothing into a condition that could be refused but the bounds of its windows
(`Query.exists_compile_inQuery_iff`).  The
two checks that a statement of its own has to pass before anything is written, that there is a table
and that the method belongs to a query, are not made for it.  So of a query in the conditions of a
statement, these two are all that may be missing to a select of its own
(`Query.compile_subqueries`).
-/

namespace PolySql

namespace Query

variable {d : Dialect} {q : Query}

/-! ### Selects on their own -/

theorem exists_compile_iff {quoting : Bool} :
    (∃ s, q.compile d quoting = .ok s) ↔ ∃ f, q.fragment d = .ok f := by
  constructor
  · rintro ⟨s, hs⟩
    obtain ⟨draft, hdraft, -⟩ := compile_eq_ok.mp hs
    exact ⟨_, fragment_of_draft hdraft⟩
  · rintro ⟨f, hf⟩
    obtain ⟨draft, hdraft, -⟩ := fragment_eq_ok_iff_draft.mp hf
    exact ⟨_, compile_of_draft hdraft⟩

/-- A query that can be written as a select is accepted as one exactly if it has a table and its
method reads rows. -/
theorem accepted_iff_of_selectFragment {f : Fragment} (h : q.selectFragment d = .ok f)
    (quoting : Bool) :
    ((∃ s, q.compile d quoting = .ok s) ∧ q.method.isSelect) ↔
      Text.isAllBlank q.table = false ∧ q.method.isSelect := by
  constructor
  · rintro ⟨hs, hmethod⟩
    obtain ⟨g, hg⟩ := exists_compile_iff.mp hs
    obtain ⟨htable, -⟩ := fragment_eq_ok.mp hg
    exact ⟨htable, hmethod⟩
  · rintro ⟨htable, hmethod⟩
    have hf : q.fragment d = .ok f := by
      rw [fragment_eq_ok]
      refine ⟨htable, ?_⟩
      cases hm : q.method <;> simp only [hm, Method.isSelect] at hmethod ⊢
      case select => exact h
      case pluck => exact h
      case first => exact h
      all_goals exact absurd hmethod (by decide)
    exact ⟨exists_compile_iff.mpr ⟨f, hf⟩, hmethod⟩

/-! ### One more condition -/

/-- A query with one more condition. -/
def addCondition (q : Query) (p : Predicate) : Query :=
  { q with conditions := q.conditions ++ [p] }

theorem mem_subqueries_addCondition {p : Predicate} {sub : Query} (hinsert : q.method ≠ .insert)
    (hschema : q.method ≠ .schema) :
    sub ∈ (q.addCondition p).subqueries ↔ sub ∈ q.subqueries ∨ sub ∈ p.selects := by
  have hwritten : ∀ r : Query, r.method = q.method →
      r.subqueries = conditionSelects r.conditions := by
    intro r hr
    unfold subqueries
    rw [hr]
    cases hmethod : q.method <;> simp_all
  rw [hwritten (q.addCondition p) rfl, hwritten q rfl, addCondition, mem_conditionSelects,
    mem_conditionSelects]
  constructor
  · rintro ⟨c, hc, hsub⟩
    rcases List.mem_append.mp hc with hc | hc
    · exact .inl ⟨c, hc, hsub⟩
    · obtain rfl := List.mem_singleton.mp hc
      exact .inr hsub
  · rintro (⟨c, hc, hsub⟩ | hsub)
    · exact ⟨c, List.mem_append_left _ hc, hsub⟩
    · exact ⟨p, List.mem_append_right _ List.mem_cons_self, hsub⟩

/-- A reason for which a query cannot be built does not depend on its conditions, unless it is a
window in them. -/
theorem Unbuildable.withConditions (h : q.Unbuildable d) (conditions : List Predicate)
    (hwindow : ∀ sub ∈ q.writtenSelects, ¬ sub.Fits d → Unbuildable d { q with conditions }) :
    Unbuildable d { q with conditions } := by
  cases h with
  | blankTable hblank => exact .blankTable hblank
  | schemaMethod hmethod => exact .schemaMethod hmethod
  | insertWithoutRows hmethod hrows => exact .insertWithoutRows hmethod hrows
  | insertWithoutColumns hmethod hrows => exact .insertWithoutColumns hmethod hrows
  | updateWithoutValues hmethod hassignments => exact .updateWithoutValues hmethod hassignments
  | counterWithoutColumn hmethod hcounter => exact .counterWithoutColumn hmethod hcounter
  | leastAmount hmethod hcounter hamount => exact .leastAmount hmethod hcounter hamount
  | refetchAfterDelete hmethod hstrategy hreturning hcolumns =>
    exact .refetchAfterDelete hmethod hstrategy hreturning hcolumns
  | window hsub hfits => exact hwindow _ hsub hfits

/-- A condition brings no other reason to refuse a query than the windows of the queries in it. -/
theorem unbuildable_addCondition_iff {p : Predicate} (hinsert : q.method ≠ .insert) :
    (q.addCondition p).Unbuildable d ↔ q.Unbuildable d ∨ ∃ sub ∈ p.selects, ¬ sub.Fits d := by
  by_cases hschema : q.method = .schema
  · exact ⟨fun _ => .inl (.schemaMethod hschema), fun _ => .schemaMethod hschema⟩
  have hnested {sub : Query} :
      sub ∈ (q.addCondition p).subqueries ↔ sub ∈ q.subqueries ∨ sub ∈ p.selects :=
    mem_subqueries_addCondition hinsert hschema
  have hown : (q.addCondition p).Fits d ↔ q.Fits d := Iff.rfl
  constructor
  · intro h
    by_cases hp : ∃ sub ∈ p.selects, ¬ sub.Fits d
    · exact .inr hp
    have hback : { q.addCondition p with conditions := q.conditions } = q := by
      cases q
      rfl
    have hwithout := h.withConditions q.conditions
    rw [hback] at hwithout
    refine .inl (hwithout fun sub hsub hfits => ?_)
    rcases mem_writtenSelects.mp hsub with ⟨hmethod, rfl⟩ | hsub
    · exact .window (mem_writtenSelects.mpr (.inl ⟨hmethod, rfl⟩)) (hown.not.mp hfits)
    · rcases hnested.mp hsub with hsub | hsub
      · exact .window (mem_writtenSelects.mpr (.inr hsub)) hfits
      · exact absurd ⟨sub, hsub, hfits⟩ hp
  · rintro (h | ⟨sub, hsub, hfits⟩)
    · refine h.withConditions (q.conditions ++ [p]) fun sub hsub hfits => ?_
      rcases mem_writtenSelects.mp hsub with ⟨hmethod, rfl⟩ | hsub
      · exact .window (q := sub.addCondition p)
          (mem_writtenSelects.mpr (.inl ⟨hmethod, rfl⟩)) (hown.not.mpr hfits)
      · exact .window (q := q.addCondition p)
          (mem_writtenSelects.mpr (.inr (hnested.mpr (.inl hsub)))) hfits
    · exact .window (mem_writtenSelects.mpr (.inr (hnested.mpr (.inr hsub)))) hfits

/-- **All that a query in a condition can be refused for is a window.**  A query with one more
condition on a query has a statement if and only if it has one without the condition and the windows
of the query in it and of those inside it fit; its table and its method do not matter. -/
theorem exists_compile_inQuery_iff {quoting : Bool} (hinsert : q.method ≠ .insert)
    (column : String) (sub : Query) :
    (∃ s, (q.addCondition (.inQuery column sub)).compile d quoting = .ok s) ↔
      (∃ s, q.compile d quoting = .ok s) ∧ ∀ inner ∈ sub.selects, inner.Fits d := by
  rw [exists_compile_iff, exists_compile_iff, exists_fragment_iff, exists_fragment_iff,
    unbuildable_addCondition_iff hinsert, Predicate.selects]
  push Not
  rfl

/-! ### Checks -/

/-- **A query in a condition is not held to the checks of a statement.**  Wherever it stands in the
conditions of a statement, it is written as a select in parentheses, and it would be accepted as a
select of its own exactly if its table is not blank and its method reads rows.  Neither is asked: a
condition on any query whatsoever is taken if the windows in it fit. -/
theorem compile_subqueries (d : Dialect) (quoting : Bool) (q : Query) :
    (∀ s, q.compile d quoting = .ok s → ∀ sub ∈ q.subqueries,
      (∃ f g, q.fragment d = .ok f ∧ sub.selectFragment d = .ok g ∧
        Fragment.wrapped "(" ")" g <:+: f) ∧
      (((∃ t, sub.compile d quoting = .ok t) ∧ sub.method.isSelect) ↔
        Text.isAllBlank sub.table = false ∧ sub.method.isSelect)) ∧
    (q.method ≠ .insert → ∀ column sub,
      ((∃ s, (q.addCondition (.inQuery column sub)).compile d quoting = .ok s) ↔
        (∃ s, q.compile d quoting = .ok s) ∧ ∀ inner ∈ sub.selects, inner.Fits d)) := by
  refine ⟨fun s hs sub hsub => ?_, fun hinsert column sub => ?_⟩
  · obtain ⟨f, hf⟩ := exists_compile_iff.mp ⟨s, hs⟩
    obtain ⟨g, hg, hfg⟩ := encloses_subqueries hf sub hsub
    exact ⟨⟨f, g, hf, hg, hfg⟩, accepted_iff_of_selectFragment hg quoting⟩
  · exact exists_compile_inQuery_iff hinsert column sub

/-- A query on a table without a name. -/
def nameless : Query :=
  { select "  " with columns := ["id"] }

/-- The users whose ids a query on a table without a name gives. -/
def usersOfNameless : Query :=
  (select "users").addCondition (.inQuery "id" nameless)

theorem compile_subqueries_usersOfNameless :
    ∃ s, usersOfNameless.compile .postgres true = .ok s ∧ nameless ∈ usersOfNameless.subqueries ∧
      (∃ f g, usersOfNameless.fragment .postgres = .ok f ∧
        nameless.selectFragment .postgres = .ok g ∧ Fragment.wrapped "(" ")" g <:+: f) ∧
      (((∃ t, nameless.compile .postgres true = .ok t) ∧ nameless.method.isSelect) ↔
        Text.isAllBlank nameless.table = false ∧ nameless.method.isSelect) ∧
      (select "users").method ≠ .insert ∧
      ((∃ s, usersOfNameless.compile .postgres true = .ok s) ↔
        (∃ s, (select "users").compile .postgres true = .ok s) ∧
          ∀ inner ∈ nameless.selects, inner.Fits .postgres) := by
  have hsub : nameless ∈ usersOfNameless.subqueries := by
    simp [usersOfNameless, addCondition, select, subqueries, conditionSelects, Predicate.selects,
      mem_selects]
  have hcompile : usersOfNameless.compile .postgres true = .ok _ := compile_of_draft rfl
  obtain ⟨hwritten, haccepted⟩ :=
    (compile_subqueries .postgres true usersOfNameless).1 _ hcompile _ hsub
  exact ⟨_, hcompile, hsub, hwritten, haccepted, by decide,
    (compile_subqueries .postgres true (select "users")).2 (by decide) "id" nameless⟩

/-- A query on a table without a name and a delete are taken in a condition, and the delete is
written as a select there, though neither is a select that would be accepted on its own. -/
theorem not_subqueries_accepted :
    (∃ s, usersOfNameless.compile .postgres true = .ok s ∧
      s.sql = "select * from \"users\" where \"id\" in (select \"id\" from \"  \")") ∧
    nameless.compile .postgres true = .error .noTable ∧
    (∃ s, ((select "users").addCondition (.inQuery "id" (delete "old"))).compile .postgres true =
        .ok s ∧
      s.sql = "select * from \"users\" where \"id\" in (select * from \"old\")") ∧
    (delete "old").method.isSelect = false := by
  refine ⟨⟨_, compile_of_draft rfl, rfl⟩, rfl, ⟨_, compile_of_draft rfl, rfl⟩, rfl⟩

end Query

end PolySql

import PolySql.Dialect.Builtin
import PolySql.Proofs.Fragment.Compiled
import PolySql.Proofs.Fragment.Enclosed
import PolySql.Proofs.Reading.Paging

/-!
# The windows of a statement

Every select in a statement is the select without its bounds with the text of a window around it
(`Query.selectFragment_unpaged`), wherever it stands.  So what is known of the windows of the
strategies holds for the statement and for the queries in its conditions, at any depth
(`Query.compile_window`).
-/

namespace PolySql

namespace Query

variable {d : Dialect} {q : Query}

/-- A query without bounds. -/
def unpaged (q : Query) : Query :=
  { q with method := .select, limit := none, offset := none }

/-- A select is the select without bounds, cut to its window. -/
theorem selectFragment_unpaged {f : Fragment} :
    q.selectFragment d = .ok f ↔ ∃ all, q.unpaged.selectFragment d = .ok all ∧
      Fragment.windowed d.limitStrategy (!q.ordering.isEmpty) all q.rowLimit q.offset = .ok f := by
  rw [selectFragment_eq_ok]
  constructor
  · rintro ⟨fs, hfs, hwindow⟩
    exact ⟨_, selectFragment_eq_ok.mpr ⟨fs, hfs, rfl⟩, hwindow⟩
  · rintro ⟨all, hall, hwindow⟩
    obtain ⟨fs, hfs, hall⟩ := selectFragment_eq_ok.mp hall
    obtain rfl := Except.ok.inj hall
    exact ⟨fs, hfs, hwindow⟩

/-- Whether a fragment reads as the window of a query.  Its text and its bindings are those of the
select without bounds, with something around the text and some values after the bindings, which
together read as clauses.  From any rows that the select without bounds may give, the clauses pick
those after the offset, up to the limit, which is 1 for a first row; there may be up to `10 ^ 13`
rows after the offset. -/
def ReadsAsWindow (w : Writer) (q : Query) (f : Fragment) : Prop :=
  ∃ all before after values clauses,
    q.unpaged.selectFragment w.dialect = .ok all ∧
    f.neutral w = before ++ all.neutral w ++ after ∧
    f.bindings = all.bindings ++ values.map .value ∧
    readPaging before after values = some clauses ∧
    ∀ (ρ : Type) (rows : List ρ),
      (rows.drop ((q.offset.map UInt64.toNat).getD 0)).length ≤ 10_000_000_000_000 →
        PagingClause.rows clauses rows =
          windowRows (if q.method = .first then some 1 else q.limit) q.offset rows

theorem readsAsWindow_of_selectFragment {w : Writer} {f : Fragment}
    (h : q.selectFragment w.dialect = .ok f) : q.ReadsAsWindow w f := by
  obtain ⟨all, hall, hwindow⟩ := selectFragment_unpaged.mp h
  obtain ⟨hfits, rfl⟩ := Fragment.windowed_eq_ok_iff.mp hwindow
  obtain ⟨hopening, hclosing⟩ := Fragment.bindings_window w.dialect.limitStrategy
    (!q.ordering.isEmpty) q.rowLimit q.offset
  refine ⟨all, _, _, _, _, hall, ?_, ?_, Fragment.readPaging_window hfits (!q.ordering.isEmpty) w,
    fun ρ rows hrows => PagingClause.rows_pagingClauses hrows⟩
  · rw [← String.toList_inj]
    simp only [Fragment.toList_neutral_append, String.toList_append]
  · rw [Fragment.bindings_append, Fragment.bindings_append, hopening, hclosing, List.nil_append]

/-- **All strategies select the same window.**  Whatever the strategy of the dialect, the statement
of a select reads as the window of its query, and so does every select in a statement, at any depth:
the part of the text and of the bindings that is its own. -/
theorem compile_window {d : Dialect} {quoting : Bool} {s : Statement}
    (h : q.compile d quoting = .ok s) :
    ∃ f, s.sql = Placeholder.position d.placeholderStyle (f.neutral (q.writer d quoting)) ∧
      s.bindings = f.bindings ∧
      (q.method = .select ∨ q.method = .pluck ∨ q.method = .first →
        q.ReadsAsWindow (q.writer d quoting) f) ∧
      ∀ sub ∈ q.writtenSelects, ∃ left g right, f = left ++ g ++ right ∧
        sub.selectFragment d = .ok g ∧ sub.ReadsAsWindow (q.writer d quoting) g := by
  obtain ⟨draft, hdraft, rfl⟩ := compile_eq_ok.mp h
  have hf := fragment_of_draft hdraft
  refine ⟨draft.fragment, rfl, rfl, fun hmethod => ?_, fun sub hsub => ?_⟩
  · obtain ⟨-, hf⟩ := fragment_eq_ok.mp hf
    rcases hmethod with hmethod | hmethod | hmethod <;> rw [hmethod] at hf <;>
      exact readsAsWindow_of_selectFragment (w := q.writer d quoting) hf
  · obtain ⟨g, hg, left, right, hinfix⟩ := holds_writtenSelects hf sub hsub
    exact ⟨left, g, right, hinfix.symm, hg,
      readsAsWindow_of_selectFragment (w := q.writer d quoting) hg⟩

/-- The first row of a page among those whose ids are in a page of another table. -/
def pageInPage : Query :=
  { Query.first "items" with
    ordering := [{ column := "id", direction := .asc }]
    offset := some 5
    limit := some 9
    conditions :=
      [.or [.inQuery "id" { Query.select "old" with columns := ["item"], offset := some 7 },
        .isNull "id"]] }

theorem compile_window_pageInPage :
    ∃ s, pageInPage.compile .oracle true = .ok s ∧
      s.values = [.int 10000000000007, .int 7, .int 6, .int 5] ∧
      ∃ f, s.sql = Placeholder.position Dialect.oracle.placeholderStyle
          (f.neutral (pageInPage.writer .oracle true)) ∧
        s.bindings = f.bindings ∧
        (pageInPage.method = .select ∨ pageInPage.method = .pluck ∨ pageInPage.method = .first →
          pageInPage.ReadsAsWindow (pageInPage.writer .oracle true) f) ∧
        ∀ sub ∈ pageInPage.writtenSelects, ∃ left g right, f = left ++ g ++ right ∧
          sub.selectFragment .oracle = .ok g ∧
          sub.ReadsAsWindow (pageInPage.writer .oracle true) g :=
  ⟨_, compile_of_draft rfl, rfl, compile_window (compile_of_draft rfl)⟩

end Query

end PolySql

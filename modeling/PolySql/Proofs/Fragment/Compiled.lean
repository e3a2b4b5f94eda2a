import PolySql.Proofs.Fragment.Window

/-!
# The statement of a draft

A statement starts with one of its own words (`Query.exists_text_of_fragment`), so neither its
neutral form nor what numbering makes of it is blank.  The check for an empty query therefore never
fires (`Query.compile_eq`): whatever has a draft has a statement, and it is the statement of this
draft (`Query.compile_eq_ok`).
-/

namespace PolySql

/-- Numbering replaces nothing but marks. -/
theorem Placeholder.mem_positionFrom (style : PlaceholderStyle) {c : Char} (hc : c ≠ mark)
    {cs : List Char} (h : c ∈ cs) (index : Nat) : c ∈ positionFrom style index cs := by
  induction cs generalizing index with
  | nil => exact absurd h List.not_mem_nil
  | cons a cs ih =>
    by_cases ha : a = mark
    · subst ha
      rw [positionFrom_mark]
      have hcs : c ∈ cs := (List.mem_cons.mp h).resolve_left hc
      exact List.mem_append_right _ (ih hcs _)
    · rw [positionFrom_of_ne_mark style index ha]
      rcases List.mem_cons.mp h with rfl | hcs
      · exact List.mem_cons_self
      · exact List.mem_cons_of_mem _ (ih hcs _)

/-- A statement starts with one of its own words, each of which has an `e`. -/
theorem Query.exists_text_of_fragment {d : Dialect} {q : Query} {f : Fragment}
    (h : q.fragment d = .ok f) : ∃ word rest, f = .text word :: rest ∧ 'e' ∈ word.toList := by
  have hselect (h : q.selectFragment d = .ok f) :
      ∃ word rest, f = .text word :: rest ∧ 'e' ∈ word.toList := by
    obtain ⟨fs, -, hwindow⟩ := selectFragment_eq_ok.mp h
    have hword : 'e' ∈ (if q.distinct then "select distinct " else "select ").toList := by
      split <;> decide
    have hbare : ∃ word rest, Fragment.selectHead d q = .text word :: rest ∧ 'e' ∈ word.toList :=
      ⟨_, _, rfl, hword⟩
    obtain ⟨word, rest, hhead, hword⟩ := hbare
    -- a window by row numbers puts a select of its own in front
    obtain hopening | ⟨first, before, hopening, hfirst⟩ :
        Fragment.windowOpening d.limitStrategy q.rowLimit q.offset = [] ∨
          ∃ first before, Fragment.windowOpening d.limitStrategy q.rowLimit q.offset =
            .text first :: before ∧ 'e' ∈ first.toList := by
      unfold Fragment.windowOpening
      cases d.limitStrategy <;> cases q.offset <;> cases q.rowLimit <;> simp
    · exact ⟨word, _, by rw [Fragment.windowed_eq_ok hwindow, hopening, hhead]; rfl, hword⟩
    · exact ⟨first, _, by rw [Fragment.windowed_eq_ok hwindow, hopening]; rfl, hfirst⟩
  obtain ⟨-, h⟩ := fragment_eq_ok.mp h
  split at h
  · exact hselect h
  · exact hselect h
  · exact hselect h
  · obtain ⟨-, -, rfl⟩ := insertFragment_eq_ok.mp h
    unfold insertBody
    split
    · split <;> exact ⟨_, _, rfl, by decide⟩
    · exact ⟨_, _, rfl, by decide⟩
  · obtain ⟨assignments, conditions, -, -, rfl⟩ := updateFragment_eq_ok.mp h
    exact ⟨"update ", _, rfl, by decide⟩
  · obtain ⟨assignments, conditions, -, -, rfl⟩ := updateFragment_eq_ok.mp h
    exact ⟨"update ", _, rfl, by decide⟩
  · obtain ⟨-, conditions, -, rfl⟩ := deleteFragment_eq_ok.mp h
    exact ⟨"delete from ", _, rfl, by decide⟩
  · exact h.elim

namespace Query

variable {d : Dialect} {q : Query}

theorem isAllBlank_eq_false {s : String} (h : 'e' ∈ s.toList) : Text.isAllBlank s = false := by
  refine Bool.eq_false_iff.mpr fun hblank => ?_
  rw [Text.isAllBlank, List.all_eq_true] at hblank
  exact absurd (hblank 'e' h) (by decide)

theorem e_mem_neutral {f : Fragment} (h : q.fragment d = .ok f) (w : Writer) :
    'e' ∈ (f.neutral w).toList := by
  obtain ⟨word, rest, rfl, hword⟩ := exists_text_of_fragment h
  rw [Fragment.neutral_text_cons, String.toList_append]
  exact List.mem_append_left _ hword

/-- **The check for an empty query never fires.** -/
theorem compile_eq (d : Dialect) (quoting : Bool) (q : Query) :
    q.compile d quoting = do return q.statementOf (q.writer d quoting) (← q.draft d) := by
  unfold compile
  cases hdraft : q.draft d with
  | error e => rfl
  | ok draft =>
    have htext := e_mem_neutral (fragment_of_draft hdraft) (q.writer d quoting)
    change (if Text.isAllBlank (draft.fragment.neutral (q.writer d quoting)) then _ else _) = _
    rw [isAllBlank_eq_false htext]
    rfl

theorem compile_eq_ok {quoting : Bool} {s : Statement} :
    q.compile d quoting = .ok s ↔
      ∃ draft, q.draft d = .ok draft ∧ s = q.statementOf (q.writer d quoting) draft := by
  rw [compile_eq]
  exact bind_pure_eq_ok

theorem compile_of_draft {quoting : Bool} {draft : Draft} (h : q.draft d = .ok draft) :
    q.compile d quoting = .ok (q.statementOf (q.writer d quoting) draft) :=
  compile_eq_ok.mpr ⟨draft, h, rfl⟩

theorem isAllBlank_sql_statementOf {draft : Draft} (h : q.draft d = .ok draft) (w : Writer) :
    Text.isAllBlank (q.statementOf w draft).sql = false := by
  refine isAllBlank_eq_false ?_
  rw [statementOf, Placeholder.position_eq, String.toList_ofList]
  exact Placeholder.mem_positionFrom w.dialect.placeholderStyle (by decide)
    (e_mem_neutral (fragment_of_draft h) w) 1

/-- The statement of a query has text. -/
theorem isAllBlank_sql {quoting : Bool} {s : Statement} (h : q.compile d quoting = .ok s) :
    Text.isAllBlank s.sql = false := by
  obtain ⟨draft, hdraft, rfl⟩ := compile_eq_ok.mp h
  exact isAllBlank_sql_statementOf hdraft _

end Query

end PolySql

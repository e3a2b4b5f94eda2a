import Mathlib.Data.List.Nodup
import PolySql.Proofs.Alignment
import PolySql.Request

/-!
# Slots and refetches

Where an engine hands changed rows back by their ids, a statement has one slot for each row that it
inserts, or one for all that it updates, and a refetch that binds what came back through them.
`Query.wantedSlots` are the slots that a query asks for, numbered from 0, and they are the slots of
its statement (`Query.slots_fragment`).  No two of them come back under one name
(`nodup_outBindName`).

The refetch is written beside the statement, from names that are collected while the slots are
written.  They are the names of the slots that are there, in their order (`Query.refetch_draft`).
The refetch has one placeholder for each of them, numbered from 1
(`Query.position_refetchFragment`).

`Request.compile_returning` collects what holds of all statements of a request.
-/

namespace PolySql

/-! ### The names of slots -/

/-- Slots that come back under one name have one ordinal. -/
theorem ReturningSlot.ordinal_eq_of_outBindName_eq {s t : ReturningSlot}
    (h : s.outBindName = t.outBindName) : s.ordinal = t.ordinal := by
  have hbare : ∀ n : Nat, "returnParam" ≠ "returnParam" ++ n.repr := fun n heq =>
    Nat.repr_ne_empty ((String.append_right_inj "returnParam").mp (heq.symm.trans rfl))
  unfold outBindName at h
  split_ifs at h with hs ht ht
  · rw [hs, ht]
  · exact absurd h (hbare t.ordinal)
  · exact absurd h.symm (hbare s.ordinal)
  · have hrepr : s.ordinal.repr = t.ordinal.repr :=
      (String.append_right_inj "returnParam").mp h
    have hdigits : Nat.toDigits 10 s.ordinal = Nat.toDigits 10 t.ordinal := by
      rw [← Nat.toList_repr, ← Nat.toList_repr, hrepr]
    rw [← Nat.ofDigitChars_ten_toDigits (n := s.ordinal), hdigits,
      Nat.ofDigitChars_ten_toDigits]

/-- Slots that are numbered from 0 come back under different names. -/
theorem nodup_outBindName {slots : List ReturningSlot}
    (h : slots.map ReturningSlot.ordinal = List.range slots.length) :
    (slots.map ReturningSlot.outBindName).Nodup := by
  have hordinals : (slots.map ReturningSlot.ordinal).Nodup := h ▸ List.nodup_range
  refine List.Nodup.map_on (fun s hs t ht hname => ?_) hordinals.of_map
  exact List.inj_on_of_nodup_map hordinals hs ht (ReturningSlot.ordinal_eq_of_outBindName_eq hname)

/-- The slot for the id of the row with the given number. -/
def rowSlot (columns : List String) (ordinal : Nat) : ReturningSlot :=
  { column := String.intercalate ":" columns, ordinal }

/-! ### The slots of a statement -/

theorem filterMap_slot?_values (vs : List Value) :
    (vs.map Binding.value).filterMap Binding.slot? = [] := by
  simp [List.filterMap_map, Function.comp_def, Binding.slot?]

namespace Query

/-- The number of rows whose ids come back from a query: every row of an insert has an id of its
own, an update or a counter has one for all of its rows. -/
def slotCount (q : Query) : Nat :=
  match q.method with
  | .insert => q.rows.length
  | .update | .counter => 1
  | _ => 0

/-- The slots for the rows with the given numbers, if rows are handed back by their ids. -/
def slotsFor (d : Dialect) (q : Query) (ordinals : List Nat) : List ReturningSlot :=
  match d.returningStrategy, q.returningColumns? with
  | .refetch, some columns => ordinals.map (rowSlot columns)
  | _, _ => []

/-- The slots that a query asks for. -/
def wantedSlots (d : Dialect) (q : Query) : List ReturningSlot :=
  q.slotsFor d (List.range q.slotCount)

@[simp] theorem slotsFor_nil (d : Dialect) (q : Query) : q.slotsFor d [] = [] := by
  unfold slotsFor
  split <;> rfl

theorem slotsFor_eq_nil {d : Dialect} {q : Query}
    (h : ¬ (d.returningStrategy = .refetch ∧ q.returningColumns?.isSome)) (ordinals : List Nat) :
    q.slotsFor d ordinals = [] := by
  unfold slotsFor
  split
  · rename_i columns hstrategy hreturning
    exact absurd ⟨hstrategy, by simp [hreturning]⟩ h
  · rfl

theorem filterMap_slot?_rowBindings (q : Query) (row : List Cell) :
    (q.rowBindings row).filterMap Binding.slot? = [] := by
  simp [rowBindings, List.filterMap_map, Function.comp_def, Binding.slot?]

theorem filterMap_slot?_assignmentBindings (q : Query) :
    q.assignmentBindings.filterMap Binding.slot? = [] := by
  unfold assignmentBindings
  split_ifs
  · cases q.counter <;> rfl
  · simp [List.filterMap_map, Function.comp_def, Binding.slot?]

theorem filterMap_slot?_trailingBindings (d : Dialect) (q : Query) :
    (q.trailingBindings d).filterMap Binding.slot? = q.slotsFor d [0] := by
  unfold trailingBindings slotsFor
  cases d.returningStrategy <;> cases q.returningColumns? <;> rfl

/-- A block of inserts has a slot after each row, numbered on from the first one. -/
theorem filterMap_slot?_insertBlock (q : Query) (columns : List String) (rows : List (List Cell))
    (start : Nat) :
    ((rows.zipIdx start).flatMap fun (row, ordinal) =>
        q.rowBindings row ++ [.returning (rowSlot columns ordinal)]).filterMap Binding.slot? =
      (List.range' start rows.length).map (rowSlot columns) := by
  induction rows generalizing start with
  | nil => rfl
  | cons row rows ih =>
    rw [List.zipIdx_cons, List.flatMap_cons, List.filterMap_append, ih, List.filterMap_append,
      filterMap_slot?_rowBindings, List.length_cons, List.range'_succ, List.map_cons]
    rfl

theorem filterMap_slot?_insertBindings (d : Dialect) {q : Query} (hrows : q.rows ≠ []) :
    (q.insertBindings d).filterMap Binding.slot? = q.slotsFor d (List.range q.rows.length) := by
  have hvalues : (q.rows.flatMap q.rowBindings).filterMap Binding.slot? = [] := by
    rw [List.filterMap_flatMap]
    exact List.flatMap_eq_nil_iff.mpr fun row _ => q.filterMap_slot?_rowBindings row
  unfold insertBindings
  split
  · rename_i columns first second rest hstrategy hreturning hlist
    rw [slotsFor, hstrategy, hreturning, List.range_eq_range', hlist]
    exact filterMap_slot?_insertBlock q columns (first :: second :: rest) 0
  · -- several rows that are not inserted one by one have no slots, and one row has one at the end
    rename_i hsingle
    rw [List.filterMap_append, hvalues, List.nil_append, filterMap_slot?_trailingBindings]
    by_cases hrefetch : d.returningStrategy = .refetch ∧ q.returningColumns?.isSome
    · obtain ⟨hstrategy, hreturning⟩ := hrefetch
      obtain ⟨columns, hcolumns⟩ := Option.isSome_iff_exists.mp hreturning
      obtain ⟨row, hrow⟩ : ∃ row, q.rows = [row] := by
        match hlist : q.rows with
        | [] => exact absurd hlist hrows
        | [row] => exact ⟨row, rfl⟩
        | first :: second :: rest =>
          exact (hsingle columns first second rest hstrategy hcolumns hlist).elim
      rw [hrow]
      rfl
    · rw [slotsFor_eq_nil hrefetch, slotsFor_eq_nil hrefetch]

/-- **A statement has the slots that its query asks for.** -/
theorem slots_fragment {d : Dialect} {q : Query} {f : Fragment} (h : q.fragment d = .ok f) :
    f.slots = q.wantedSlots d := by
  have hbindings := bindings_fragment h
  obtain ⟨-, h⟩ := fragment_eq_ok.mp h
  rw [Fragment.slots, hbindings, boundBindings, wantedSlots, slotCount]
  cases hmethod : q.method <;> simp only [hmethod] at h
  case select => exact (filterMap_slot?_values _).trans (slotsFor_nil d q).symm
  case pluck => exact (filterMap_slot?_values _).trans (slotsFor_nil d q).symm
  case first => exact (filterMap_slot?_values _).trans (slotsFor_nil d q).symm
  case insert =>
    obtain ⟨hrows, -, -⟩ := insertFragment_eq_ok.mp h
    exact filterMap_slot?_insertBindings d hrows
  case update =>
    rw [List.filterMap_append, List.filterMap_append, filterMap_slot?_assignmentBindings,
      filterMap_slot?_values, filterMap_slot?_trailingBindings]
    rfl
  case counter =>
    rw [List.filterMap_append, List.filterMap_append, filterMap_slot?_assignmentBindings,
      filterMap_slot?_values, filterMap_slot?_trailingBindings]
    rfl
  case delete =>
    -- a delete that asked for row ids would have had no fragment
    obtain ⟨hdelete, -⟩ := deleteFragment_eq_ok.mp h
    rw [List.filterMap_append, filterMap_slot?_values, filterMap_slot?_trailingBindings,
      slotsFor_eq_nil hdelete, slotsFor_eq_nil hdelete]
    rfl

/-! ### The names in a refetch -/

/-- The select of what a query wants handed back from the rows with the given slots. -/
def refetchFor (d : Dialect) (q : Query) (slots : List ReturningSlot) : Option RefetchDraft :=
  if slots = [] then none
  else some (.select d q.table (q.returning.getD []) (slots.map ReturningSlot.outBindName))

theorem returning_of_returningColumns? {q : Query} {columns : List String}
    (h : q.returningColumns? = some columns) : q.returning.getD [] = columns := by
  rw [(Option.filter_eq_some_iff.mp h).1]
  rfl

theorem refetchFor_slotsFor {d : Dialect} {q : Query} {columns : List String}
    (hstrategy : d.returningStrategy = .refetch) (hreturning : q.returningColumns? = some columns)
    {ordinals : List Nat} (hordinals : ordinals ≠ []) :
    q.refetchFor d (q.slotsFor d ordinals) =
      some (.select d q.table columns
        (ordinals.map fun ordinal => (rowSlot columns ordinal).outBindName)) := by
  rw [slotsFor, hstrategy, hreturning, refetchFor, if_neg (by simpa using hordinals),
    returning_of_returningColumns? hreturning, List.map_map]
  rfl

theorem refetchFor_slotsFor_eq_none {d : Dialect} {q : Query}
    (h : ¬ (d.returningStrategy = .refetch ∧ q.returningColumns?.isSome)) (ordinals : List Nat) :
    q.refetchFor d (q.slotsFor d ordinals) = none := by
  rw [slotsFor_eq_nil h]
  rfl

/-- A slot at the end gives its own name. -/
theorem refetch_trailingReturning (d : Dialect) (q : Query) :
    (Draft.trailingReturning d q.table q.returningColumns?).refetch =
      q.refetchFor d (q.slotsFor d [0]) := by
  cases hcolumns : q.returningColumns? with
  | none => exact (refetchFor_slotsFor_eq_none (by simp [hcolumns]) _).symm
  | some columns =>
    unfold Draft.trailingReturning
    cases hstrategy : d.returningStrategy with
    | native => exact (refetchFor_slotsFor_eq_none (by simp [hstrategy]) _).symm
    | output => exact (refetchFor_slotsFor_eq_none (by simp [hstrategy]) _).symm
    | refetch =>
      rw [refetchFor_slotsFor hstrategy hcolumns (List.cons_ne_nil _ _)]
      rfl

/-- The inserts of a block give the names of their own slots, numbered on from the first one. -/
theorem map_snd_insertWithSlot (table : String) (columns : List String) (rows : List (List Cell))
    (returning : List String) (start : Nat) :
    ((rows.zipIdx start).map fun (row, ordinal) =>
        Fragment.insertWithSlot table columns row returning ordinal).map Prod.snd =
      (List.range' start rows.length).map fun ordinal =>
        (rowSlot returning ordinal).outBindName := by
  induction rows generalizing start with
  | nil => rfl
  | cons row rows ih =>
    rw [List.zipIdx_cons, List.map_cons, List.map_cons, ih, List.length_cons, List.range'_succ,
      List.map_cons]
    rfl

theorem refetch_insertBody (d : Dialect) {q : Query} (hrows : q.rows ≠ []) :
    (q.insertBody d).refetch = q.refetchFor d (q.slotsFor d (List.range q.rows.length)) := by
  have hrange : List.range q.rows.length ≠ [] := by simpa using hrows
  unfold insertBody
  split_ifs with hblock
  · obtain ⟨hstrategy, -⟩ := hblock
    split
    · rename_i columns hcolumns
      rw [refetchFor_slotsFor hstrategy hcolumns hrange, Draft.insertBlock, List.range_eq_range',
        ← map_snd_insertWithSlot q.table q.insertColumns q.rows columns 0]
    · rename_i hcolumns
      exact (refetchFor_slotsFor_eq_none (by simp [hcolumns]) _).symm
  · rw [Draft.insertRows, Draft.refetch_after, refetch_trailingReturning]
    by_cases hrefetch : d.returningStrategy = .refetch ∧ q.returningColumns?.isSome
    · -- rows that are inserted together and handed back by their ids are one row
      have hone : q.rows.length = 1 := by
        have hpos := List.length_pos_iff.mpr hrows
        have hle := Nat.le_of_not_lt fun hlt => hblock ⟨hrefetch.1, hlt⟩
        omega
      rw [hone]
      rfl
    · rw [refetchFor_slotsFor_eq_none hrefetch, refetchFor_slotsFor_eq_none hrefetch]

/-- **A draft fetches what its own slots bring back.**  The select that is written beside a fragment
looks for the names of the slots in this fragment, in their order, and there is none without
slots. -/
theorem refetch_draft {d : Dialect} {q : Query} {draft : Draft} (h : q.draft d = .ok draft) :
    draft.refetch = q.refetchFor d draft.fragment.slots := by
  rw [slots_fragment (fragment_of_draft h), wantedSlots, slotCount]
  obtain ⟨-, h⟩ := draft_eq_ok.mp h
  have hselect (h : ∃ f, q.selectFragment d = .ok f ∧ draft = { fragment := f }) :
      draft.refetch = q.refetchFor d (q.slotsFor d (List.range 0)) := by
    obtain ⟨f, -, rfl⟩ := h
    rw [List.range_zero, slotsFor_nil]
    rfl
  have hupdate (h : q.updateDraft d = .ok draft) :
      draft.refetch = q.refetchFor d (q.slotsFor d (List.range 1)) := by
    obtain ⟨assignments, conditions, -, -, rfl⟩ := updateDraft_eq_ok.mp h
    exact refetch_trailingReturning d q
  cases hmethod : q.method <;> simp only [hmethod] at h
  case select => exact hselect h
  case pluck => exact hselect h
  case first => exact hselect h
  case insert =>
    obtain ⟨hrows, -, rfl⟩ := insertDraft_eq_ok.mp h
    exact refetch_insertBody d hrows
  case update => exact hupdate h
  case counter => exact hupdate h
  case delete =>
    obtain ⟨hdelete, conditions, -, rfl⟩ := deleteDraft_eq_ok.mp h
    rw [Draft.refetch_after, refetch_trailingReturning, refetchFor_slotsFor_eq_none hdelete,
      refetchFor_slotsFor_eq_none hdelete]

theorem refetch_statementOf_eq_some_iff {w : Writer} {q : Query} {draft : Draft}
    (h : q.draft w.dialect = .ok draft) {refetch : Refetch} :
    (q.statementOf w draft).refetch = some refetch ↔ draft.fragment.slots ≠ [] ∧
      refetch =
        { sql := Placeholder.position w.dialect.placeholderStyle
            ((refetchFragment w.dialect q.table (q.returning.getD [])
              draft.fragment.slots.length).neutral w)
          rowIds := draft.fragment.slots.map ReturningSlot.outBindName } := by
  rw [statementOf, refetch_draft h, refetchFor]
  split_ifs with hslots
  · simp [hslots]
  · simp [hslots, RefetchDraft.refetch, RefetchDraft.select, eq_comm]

/-! ### The text of a refetch -/

/-- What stands before the placeholders of a refetch. -/
def refetchHead (d : Dialect) (table : String) (columns : List String) : Fragment :=
  [.text "select "] ++ Fragment.selectList d.aliasStyle columns ++
    [.text " from ", .ident table, .text " where ROWID in ("]

/-- Behind its head a refetch has a mark for each row id. -/
theorem refetchFragment_eq (d : Dialect) (table : String) (columns : List String) (count : Nat) :
    refetchFragment d table columns count =
      refetchHead d table columns ++
        (Fragment.joined ", " (List.replicate count [.text "?"]) ++ [.text ")"]) := by
  simp [refetchFragment, refetchHead]

end Query

/-- Marks between commas are numbered one after the other. -/
theorem Placeholder.positionFrom_marks (style : PlaceholderStyle) (index count : Nat) :
    positionFrom style index (List.intercalate [',', ' '] (List.replicate count [mark])) =
      List.intercalate [',', ' ']
        ((List.range' index count).map fun k => (style.token k).toList) := by
  induction count generalizing index with
  | zero => rfl
  | succ count ih =>
    cases count with
    | zero => simp [positionFrom, List.range']
    | succ count =>
      have hcomma : positionFrom style (index + 1) [',', ' '] = [',', ' '] :=
        positionFrom_of_not_mem style _ (by decide)
      have hcount : ([',', ' '] : List Char).count mark = 0 := by decide
      rw [List.replicate_succ, List.replicate_succ, List.intercalate_cons_cons,
        ← List.replicate_succ, List.append_assoc, List.singleton_append, positionFrom_mark,
        positionFrom_append, hcomma, hcount, Nat.add_zero, ih]
      simp only [List.range'_succ, List.map_cons, List.intercalate_cons_cons, List.append_assoc]

namespace Fragment

theorem toList_neutral_joined (w : Writer) (separator : String) (fs : List Fragment) :
    (neutral w (joined separator fs)).toList =
      List.intercalate separator.toList (fs.map fun f => (neutral w f).toList) := by
  induction fs with
  | nil => rfl
  | cons f fs ih =>
    cases fs with
    | nil => simp
    | cons g fs =>
      rw [joined_cons_cons, toList_neutral_append, neutral_text_cons, String.toList_append, ih]
      simp only [List.map_cons, List.intercalate_cons_cons, List.append_assoc]

/-- A fragment with clean names that binds nothing has no mark in its text. -/
theorem mark_notMem_neutral {w : Writer} {f : Fragment} (h : f.LaidAligned)
    (hident : ∀ name : String, Placeholder.mark ∉ name.toList →
      Placeholder.mark ∉ (w.identifier name).toList) (hbindings : f.bindings = []) :
    Placeholder.mark ∉ (f.neutral w).toList := by
  rw [← List.count_eq_zero, ← neutral_spans,
    Span.count_flatMap_neutral (clean_spans h hident), bindings_spans h, hbindings]
  rfl

end Fragment

namespace Query

section Refetch

variable {w : Writer} {table : String} {columns : List String}

theorem laid_refetchHead {N : String → Prop} {R : String → List Value → Prop}
    (hN : NameProperty N) (d : Dialect) (htable : N table)
    (hcolumns : ∀ column ∈ columns, N column) :
    (refetchHead d table columns).Laid N R := by
  have hlist : (Fragment.selectList d.aliasStyle columns).Laid N R :=
    Fragment.laid_selectList hN _ hcolumns
  have hname : Fragment.Laid N R [.ident table, .text " where ROWID in ("] :=
    .cons_of_follows htable (.text rfl) (.cons rfl _)
  have hfrom : Fragment.Laid N R [.text " from ", .ident table, .text " where ROWID in ("] :=
    hname.text_cons rfl rfl
  exact (hlist.append_of_follows hfrom (.cons rfl _)).text_cons rfl rfl

theorem mark_notMem_refetchHead
    (hquotes : w.quoting = true →
      w.dialect.openQuote ≠ Placeholder.mark ∧ w.dialect.closeQuote ≠ Placeholder.mark)
    (htable : Placeholder.mark ∉ table.toList)
    (hcolumns : ∀ column ∈ columns, Placeholder.mark ∉ column.toList) :
    Placeholder.mark ∉ ((refetchHead w.dialect table columns).neutral w).toList := by
  have hhead : (refetchHead w.dialect table columns).LaidAligned :=
    laid_refetchHead nameProperty_unmarked w.dialect htable hcolumns
  refine Fragment.mark_notMem_neutral hhead (fun name hname => ?_) (by simp [refetchHead])
  by_cases hquoting : w.quoting = true
  · exact Writer.mark_notMem_identifier (hquotes hquoting).1 (hquotes hquoting).2 hname
  · rwa [Writer.identifier, if_neg hquoting]

/-- **The placeholders of a refetch are numbered on their own.**  Where what stands before them has
no mark, they have the numbers from 1. -/
theorem position_refetchFragment
    (hhead : Placeholder.mark ∉ ((refetchHead w.dialect table columns).neutral w).toList)
    (count : Nat) :
    Placeholder.position w.dialect.placeholderStyle
        ((refetchFragment w.dialect table columns count).neutral w) =
      (refetchHead w.dialect table columns).neutral w ++
        String.intercalate ", "
          ((List.range count).map fun k => w.dialect.placeholder (k + 1)) ++ ")" := by
  have hmarks : (Fragment.neutral w
      (Fragment.joined ", " (List.replicate count [.text "?"]))).toList =
        List.intercalate [',', ' '] (List.replicate count [Placeholder.mark]) := by
    have hmark : (Fragment.neutral w [.text "?"]).toList = [Placeholder.mark] := by
      simp [Placeholder.mark]
    rw [Fragment.toList_neutral_joined, List.map_replicate, hmark]
    rfl
  have hclosing : Placeholder.mark ∉ [')'] := by decide
  have hend : (Fragment.neutral w [.text ")"]).toList = [')'] := by simp
  rw [← String.toList_inj, Placeholder.position_eq, String.toList_ofList, refetchFragment_eq,
    Fragment.toList_neutral_append, Fragment.toList_neutral_append, hmarks, hend,
    Placeholder.positionFrom_append, Placeholder.positionFrom_append,
    Placeholder.positionFrom_of_not_mem _ _ hhead, Placeholder.positionFrom_of_not_mem _ _ hclosing,
    List.count_eq_zero.mpr hhead, Placeholder.positionFrom_marks, List.range'_eq_map_range,
    List.map_map]
  simp [String.toList_intercalate, Dialect.placeholder, Function.comp_def, Nat.add_comm]

end Refetch

theorem returningColumns?_isSome_iff {q : Query} :
    q.returningColumns?.isSome ↔ ∃ columns, q.returning = some columns ∧ columns ≠ [] := by
  unfold returningColumns?
  cases q.returning with
  | none => simp
  | some columns => cases columns <;> simp [Option.filter]

/-! ### Statements with slots -/

/-- Whether the rows that a query changes are handed back by their ids. -/
def ReturnsByRowId (d : Dialect) (q : Query) : Prop :=
  d.returningStrategy = .refetch ∧
    (q.method = .insert ∨ q.method = .update ∨ q.method = .counter) ∧
      ∃ columns, q.returning = some columns ∧ columns ≠ []

/-- A query whose rows are handed back by their ids has slots, and no other query has any. -/
theorem wantedSlots_ne_nil_iff {d : Dialect} {q : Query} {f : Fragment}
    (h : q.fragment d = .ok f) : q.wantedSlots d ≠ [] ↔ q.ReturnsByRowId d := by
  rw [ReturnsByRowId, ← returningColumns?_isSome_iff]
  by_cases hrefetch : d.returningStrategy = .refetch ∧ q.returningColumns?.isSome
  · obtain ⟨hstrategy, hreturning⟩ := hrefetch
    obtain ⟨columns, hcolumns⟩ := Option.isSome_iff_exists.mp hreturning
    have hslots : q.wantedSlots d = (List.range q.slotCount).map (rowSlot columns) := by
      rw [wantedSlots, slotsFor, hstrategy, hcolumns]
    have hrows : q.method = .insert → q.rows ≠ [] := by
      intro hmethod
      obtain ⟨-, h⟩ := fragment_eq_ok.mp h
      rw [hmethod] at h
      exact (insertFragment_eq_ok.mp h).1
    rw [hslots, slotCount]
    cases hmethod : q.method <;> simp_all
  · rw [wantedSlots, slotsFor_eq_nil hrefetch]
    tauto

theorem map_ordinal_wantedSlots (d : Dialect) (q : Query) :
    (q.wantedSlots d).map ReturningSlot.ordinal = List.range (q.wantedSlots d).length := by
  unfold wantedSlots slotsFor
  split
  · rw [List.map_map, List.length_map, List.length_range]
    exact List.map_id _
  · rfl

theorem length_wantedSlots {d : Dialect} {q : Query} (h : q.ReturnsByRowId d) :
    (q.wantedSlots d).length = if q.method = .insert then q.rows.length else 1 := by
  obtain ⟨hstrategy, hmethod, hreturning⟩ := h
  obtain ⟨columns, hcolumns⟩ :=
    Option.isSome_iff_exists.mp (returningColumns?_isSome_iff.mpr hreturning)
  rw [wantedSlots, slotsFor, hstrategy, hcolumns, List.length_map, List.length_range, slotCount]
  rcases hmethod with hmethod | hmethod | hmethod <;> simp [hmethod]

end Query

/-- What the rows that a query hands back ask of its statement.  There are slots if and only if
there is a refetch, and both if and only if the rows are handed back by their ids.  Then there is a
slot for each row of an insert, and one for an update or a counter; the slots are numbered from 0
and come back under different names.  The refetch looks for these names in this order, and has a
placeholder for each, numbered from 1: what stands before them has no mark where its names and the
quotes around them have none. -/
structure Statement.Returns (w : Writer) (q : Query) (s : Statement) : Prop where
  slots_iff : s.slots ≠ [] ↔ s.refetch.isSome
  refetch_iff : s.refetch.isSome ↔ q.ReturnsByRowId w.dialect
  length_slots : s.refetch.isSome →
    s.slots.length = if q.method = .insert then q.rows.length else 1
  ordinals : s.slots.map ReturningSlot.ordinal = List.range s.slots.length
  nodup_names : (s.slots.map ReturningSlot.outBindName).Nodup
  rowIds : ∀ refetch ∈ s.refetch, refetch.rowIds = s.slots.map ReturningSlot.outBindName
  sql : ∀ refetch ∈ s.refetch,
    (w.quoting = true →
      w.dialect.openQuote ≠ Placeholder.mark ∧ w.dialect.closeQuote ≠ Placeholder.mark) →
    Placeholder.mark ∉ q.table.toList →
    (∀ column ∈ q.returning.getD [], Placeholder.mark ∉ column.toList) →
    let head := (Query.refetchHead w.dialect q.table (q.returning.getD [])).neutral w
    Placeholder.mark ∉ head.toList ∧
      refetch.sql = head ++ String.intercalate ", "
        ((List.range s.slots.length).map fun k => w.dialect.placeholder (k + 1)) ++ ")"

namespace Query

/-- The statement of a query returns what the query wants. -/
theorem returns_statementOf {w : Writer} {q : Query} {draft : Draft}
    (h : q.draft w.dialect = .ok draft) : (q.statementOf w draft).Returns w q := by
  have hslots : draft.fragment.slots = q.wantedSlots w.dialect :=
    slots_fragment (fragment_of_draft h)
  have hwanted : draft.fragment.slots ≠ [] ↔ q.ReturnsByRowId w.dialect := by
    rw [hslots]
    exact wantedSlots_ne_nil_iff (fragment_of_draft h)
  have hsome : (q.statementOf w draft).refetch.isSome ↔ draft.fragment.slots ≠ [] := by
    simp [Option.isSome_iff_exists, refetch_statementOf_eq_some_iff h]
  have hordinals :
      draft.fragment.slots.map ReturningSlot.ordinal = List.range draft.fragment.slots.length := by
    rw [hslots]
    exact q.map_ordinal_wantedSlots w.dialect
  exact {
    slots_iff := hsome.symm
    refetch_iff := hsome.trans hwanted
    length_slots := fun hrefetch => by
      have hlength := length_wantedSlots (hwanted.mp (hsome.mp hrefetch))
      rwa [← hslots] at hlength
    ordinals := hordinals
    nodup_names := nodup_outBindName hordinals
    rowIds := fun refetch hrefetch => by
      obtain ⟨-, rfl⟩ := (refetch_statementOf_eq_some_iff h).mp hrefetch
      rfl
    sql := fun refetch hrefetch hquotes htable hcolumns => by
      obtain ⟨-, rfl⟩ := (refetch_statementOf_eq_some_iff h).mp hrefetch
      have hhead := mark_notMem_refetchHead hquotes htable hcolumns
      exact ⟨hhead, position_refetchFragment hhead draft.fragment.slots.length⟩ }

end Query

namespace SchemaChange

theorem exists_statementOf_of_mem_create {w : Writer} {table : String} {columns : List ColumnDef}
    {compiled : Compiled} (h : compileCreate w table columns = .ok compiled) {s : Statement}
    (hs : s ∈ compiled.statements) : ∃ tolerates f, s = statementOf w tolerates f := by
  unfold compileCreate at h
  split_ifs at h
  split at h
  · obtain rfl := Except.ok.inj h
    simp only [Compiled.statements, List.mem_cons, List.not_mem_nil, or_false] at hs
    rcases hs with rfl | rfl | rfl <;> exact ⟨_, _, rfl⟩
  · obtain rfl := Except.ok.inj h
    exact ⟨_, _, List.mem_singleton.mp hs⟩

theorem exists_statementOf_of_mem_drop {w : Writer} {table : String} {ifExists : Bool}
    {compiled : Compiled} (h : compileDrop w table ifExists = .ok compiled) {s : Statement}
    (hs : s ∈ compiled.statements) : ∃ tolerates f, s = statementOf w tolerates f := by
  unfold compileDrop at h
  by_cases hblank : Text.isAllBlank table = true
  · simp [hblank] at h
  rw [if_neg hblank] at h
  cases hkey : w.dialect.autoIncrement with
  | identity =>
    rw [hkey] at h
    obtain rfl := Except.ok.inj h
    exact ⟨_, _, List.mem_singleton.mp hs⟩
  | sequenceTrigger =>
    rw [hkey] at h
    obtain rfl := Except.ok.inj h
    simp only [Compiled.statements, List.mem_cons, List.not_mem_nil, or_false] at hs
    rcases hs with rfl | rfl <;> exact ⟨_, _, rfl⟩

/-- The statements of a schema change bind nothing and have no refetch. -/
theorem bindings_of_mem_statements {d : Dialect} {quoting : Bool} {change : SchemaChange}
    {compiled : Compiled} (h : change.compile d quoting = .ok compiled) {s : Statement}
    (hs : s ∈ compiled.statements) : s.bindings = [] ∧ s.refetch = none := by
  obtain ⟨w, tolerates, f, rfl⟩ : ∃ w tolerates f, s = statementOf w tolerates f := by
    cases change with
    | createTable table columns own => exact ⟨_, exists_statementOf_of_mem_create h hs⟩
    | dropTable table ifExists own => exact ⟨_, exists_statementOf_of_mem_drop h hs⟩
  exact ⟨rfl, rfl⟩

end SchemaChange

/-- The parameters of a statement without slots are values. -/
theorem Dialect.input_of_mem_encodeAll {d : Dialect} {bindings : List Binding}
    (h : bindings.filterMap Binding.slot? = []) {p : Param} (hp : p ∈ d.encodeAll bindings) :
    ∃ v, p = .input v := by
  rw [encodeAll_eq_map] at hp
  obtain ⟨b, hb, rfl⟩ := List.mem_map.mp hp
  cases b with
  | value v => exact ⟨_, rfl⟩
  | returning slot => exact absurd (List.filterMap_eq_nil_iff.mp h _ hb) (by simp [Binding.slot?])

namespace Request

theorem compile_query_eq_ok {d : Dialect} {quoting : Bool} {q : Query}
    {transform : Option Transform} {compiled : Compiled} :
    (query q transform).compile d quoting = .ok compiled ↔
      ∃ draft, q.draft d = .ok draft ∧
        compiled = .single (q.statementOf (q.writer d quoting) draft) := by
  rw [compile, bind_pure_eq_ok]
  constructor
  · rintro ⟨s, hs, rfl⟩
    obtain ⟨draft, hdraft, rfl⟩ := Query.compile_eq_ok.mp hs
    exact ⟨draft, hdraft, rfl⟩
  · rintro ⟨draft, hdraft, rfl⟩
    exact ⟨_, Query.compile_of_draft hdraft, rfl⟩

/-- **The emulation of returning is complete and consistent.**  The slots and the refetch of the
statement of a query are those that its rows need, and a schema change has neither.  On an engine
that knows another way to hand rows back, all parameters are values. -/
theorem compile_returning {d : Dialect} {quoting : Bool} {r : Request} {compiled : Compiled}
    (h : r.compile d quoting = .ok compiled) :
    (∀ q transform, r = .query q transform →
      ∃ s, compiled = .single s ∧ s.Returns (q.writer d quoting) q) ∧
    (∀ change, r = .schema change →
      ∀ s ∈ compiled.statements, s.slots = [] ∧ s.refetch = none) ∧
    (d.returningStrategy ≠ .refetch →
      ∀ s ∈ compiled.statements, ∀ p ∈ d.encodeAll s.bindings, ∃ v, p = .input v) := by
  cases r with
  | schema change =>
    have hnone := fun s hs => SchemaChange.bindings_of_mem_statements (s := s) h hs
    refine ⟨by simp, fun _ _ s hs => ⟨?_, (hnone s hs).2⟩, fun _ s hs p hp => ?_⟩
    · rw [Statement.slots, (hnone s hs).1]
      rfl
    · rw [(hnone s hs).1] at hp
      exact absurd hp List.not_mem_nil
  | query q transform =>
    obtain ⟨draft, hdraft, rfl⟩ := compile_query_eq_ok.mp h
    refine ⟨fun q' transform' heq => ?_, by simp, fun hstrategy s hs p hp => ?_⟩
    · obtain ⟨rfl, rfl⟩ := Request.query.inj heq
      exact ⟨_, rfl, Query.returns_statementOf hdraft⟩
    · obtain rfl := List.mem_singleton.mp hs
      refine Dialect.input_of_mem_encodeAll ?_ hp
      have hnone : q.wantedSlots d = [] := Query.slotsFor_eq_nil (fun hand => hstrategy hand.1) _
      exact (Query.slots_fragment (Query.fragment_of_draft hdraft)).trans hnone

/-- An insert of two rows that wants two columns of each handed back. -/
def insertTwoReturning : Query :=
  { Query.insert "stock.items" [[("id", .int 1), ("count", .int 5)], [("id", .int 2)]] with
    returning := some ["id", "count AS n"] }

theorem compile_returning_insertTwo :
    ∃ s, (query insertTwoReturning none).compile .oracle true = .ok (.single s) ∧
      s.slots.length = 2 ∧
      (∀ q transform, query insertTwoReturning none = query q transform →
        ∃ t, Compiled.single s = .single t ∧ t.Returns (q.writer .oracle true) q) ∧
      (∀ change, query insertTwoReturning none = schema change →
        ∀ t ∈ (Compiled.single s).statements, t.slots = [] ∧ t.refetch = none) ∧
      (Dialect.oracle.returningStrategy ≠ .refetch →
        ∀ t ∈ (Compiled.single s).statements, ∀ p ∈ Dialect.oracle.encodeAll t.bindings,
          ∃ v, p = .input v) :=
  have hcompile := compile_query_eq_ok.mpr ⟨_, rfl, rfl⟩
  ⟨_, hcompile, rfl, compile_returning hcompile⟩

/-- The numbering takes a quote that is a mark for a placeholder: one row is inserted, and the
refetch has five placeholders, though no name of the query has a mark. -/
theorem not_refetch_placeholders_of_markQuotes :
    let d := { Dialect.oracle with openQuote := '?', closeQuote := '?' }
    let q := { Query.insertOne "t" [("a", .int 1)] with returning := some ["id"] }
    ∃ s refetch, (query q none).compile d true = .ok (.single s) ∧ s.refetch = some refetch ∧
      Placeholder.mark ∉ q.table.toList ∧
      (∀ column ∈ q.returning.getD [], Placeholder.mark ∉ column.toList) ∧
      s.slots.length = 1 ∧
      refetch.sql = "select :1id:2 from :3t:4 where ROWID in (:5)" :=
  ⟨_, _, compile_query_eq_ok.mpr ⟨_, rfl, rfl⟩, rfl, by decide, by decide, rfl, rfl⟩

end Request

end PolySql

import PolySql.Proofs.Client.Request
import PolySql.Proofs.Fragment.Bindings
import PolySql.Proofs.Fragment.Changes
import PolySql.Proofs.Reading.Window
import PolySql.Proofs.Returning

/-!
# When a query has no statement

`Query.Unbuildable` lists the reasons for which a query cannot be written for a dialect: something
that its statement needs is missing, or one of the selects that would be written into the statement
has a window whose bounds do not fit.  A query has a fragment if and only if there is none of these
reasons (`Query.exists_fragment_iff`), so the client refuses exactly the queries that have one, and
whatever it accepts has text and exact bounds (`Profile.compile_refuses_iff`).

Conditions that are not written do not matter: an insert is not refused for a window in its
conditions.  Nor do the tables and methods of selects inside of conditions, at which the compiler
does not look.
-/

namespace PolySql

/-! ### Bounds as numbers -/

/-- The bounds of a window as numbers, in the order in which they are bound. -/
def windowBounds : LimitStrategy → Option UInt64 → Option UInt64 → List Int
  | _, none, none => []
  | .limitOffset _, some n, offset => n.toNat :: (offset.map fun m => (m.toNat : Int)).toList
  | .limitOffset requiresLimit, none, some m =>
    (if requiresLimit then [-1] else []) ++ [(m.toNat : Int)]
  | .offsetFetch, limit, offset =>
    (offset.map UInt64.toNat |>.getD 0 : Nat) :: (limit.map fun n => (n.toNat : Int)).toList
  | .rowNum, limit, none => [(windowEnd limit 0 : Int)]
  | .rowNum, limit, some m => [(windowEnd limit m.toNat : Int), (m.toNat : Int)]

/-- Some values are the given numbers, exactly. -/
def AreInts (vs : List Value) (ns : List Int) : Prop :=
  ∃ is : List Int64, vs = is.map .int ∧ is.map Int64.toInt = ns

theorem areInts_nil : AreInts [] [] :=
  ⟨[], rfl, rfl⟩

theorem AreInts.cons {n : Int64} {m : Int} (hn : n.toInt = m) {vs : List Value} {ns : List Int}
    (h : AreInts vs ns) : AreInts (.int n :: vs) (m :: ns) := by
  obtain ⟨is, rfl, rfl⟩ := h
  exact ⟨n :: is, rfl, by rw [List.map_cons, hn]⟩

theorem AreInts.boundValue {n : Nat} (hn : n < 0x8000_0000_0000_0000) {vs : List Value}
    {ns : List Int} (h : AreInts vs ns) : AreInts (boundValue n :: vs) (n :: ns) :=
  h.cons (Int64.toInt_ofNat_of_lt hn)

/-- The bounds of a window that fits are bound as they are. -/
theorem areInts_windowValues {strategy : LimitStrategy} {limit offset : Option UInt64}
    (h : WindowFits strategy limit offset) :
    AreInts (windowValues strategy limit offset) (windowBounds strategy limit offset) := by
  cases strategy with
  | limitOffset requiresLimit =>
    obtain ⟨hlimit, hoffset⟩ := h
    cases limit with
    | none =>
      cases offset with
      | none => exact areInts_nil
      | some m =>
        have hskip := areInts_nil.boundValue (hoffset m rfl)
        cases requiresLimit with
        | false => exact hskip
        | true => exact hskip.cons rfl
    | some n =>
      cases offset with
      | none => exact areInts_nil.boundValue (hlimit n rfl)
      | some m => exact (areInts_nil.boundValue (hoffset m rfl)).boundValue (hlimit n rfl)
  | offsetFetch =>
    obtain ⟨hlimit, hoffset⟩ := h
    have hzero : 0 < 0x8000_0000_0000_0000 := by decide
    cases limit with
    | none =>
      cases offset with
      | none => exact areInts_nil
      | some m => exact areInts_nil.boundValue (hoffset m rfl)
    | some n =>
      have htake := areInts_nil.boundValue (hlimit n rfl)
      cases offset with
      | none => exact htake.boundValue hzero
      | some m => exact htake.boundValue (hoffset m rfl)
  | rowNum =>
    cases offset with
    | none =>
      cases limit with
      | none => exact areInts_nil
      | some n =>
        have hend : windowEnd (some n) 0 < 0x8000_0000_0000_0000 := by
          simpa [windowEnd] using h n rfl
        exact areInts_nil.boundValue hend
    | some m =>
      -- the offset is at most the end, which fits
      have hend : windowEnd limit m.toNat < 0x8000_0000_0000_0000 := by
        cases limit <;> exact h
      have hskip : m.toNat < 0x8000_0000_0000_0000 := by
        rw [windowEnd] at hend
        omega
      cases limit <;> exact (areInts_nil.boundValue hskip).boundValue hend

/-! ### The reasons -/

namespace Query

/-- Whether the bounds of a query's own window fit. -/
def Fits (d : Dialect) (q : Query) : Prop :=
  WindowFits d.limitStrategy q.rowLimit q.offset

/-- The reasons for which a query has no statement in a dialect. -/
inductive Unbuildable (d : Dialect) (q : Query) : Prop
  | blankTable (hblank : Text.isAllBlank q.table = true)
  | schemaMethod (hmethod : q.method = .schema)
  | insertWithoutRows (hmethod : q.method = .insert) (hrows : q.rows = [])
  | insertWithoutColumns (hmethod : q.method = .insert) (hrows : ∀ row ∈ q.rows, row = [])
  | updateWithoutValues (hmethod : q.method = .update) (hassignments : q.assignments = [])
  | counterWithoutColumn (hmethod : q.method = .counter) (hcounter : q.counter = none)
  /-- The least amount has no absolute value. -/
  | leastAmount (hmethod : q.method = .counter) {counter : Counter}
    (hcounter : q.counter = some counter) (hamount : counter.amount = Int64.minValue)
  /-- Rows that are gone cannot be fetched by their ids. -/
  | refetchAfterDelete (hmethod : q.method = .delete) (hstrategy : d.returningStrategy = .refetch)
    {columns : List String} (hreturning : q.returning = some columns) (hcolumns : columns ≠ [])
  /-- A select that would be written has a window that does not fit. -/
  | window {sub : Query} (hsub : sub ∈ q.writtenSelects) (hfits : ¬ sub.Fits d)

end Query

/-! ### Selects that fit -/

section Selects

variable {d : Dialect}

theorem exists_conditionFragments {ps : List Predicate}
    (h : ∀ p ∈ ps, ∃ f, p.fragment d = .ok f) : ∃ fs, conditionFragments d ps = .ok fs := by
  induction ps with
  | nil => exact ⟨[], rfl⟩
  | cons p ps ih =>
    obtain ⟨f, hf⟩ := h p List.mem_cons_self
    obtain ⟨fs, hfs⟩ := ih fun p hp => h p (List.mem_cons_of_mem _ hp)
    exact ⟨f :: fs,
      conditionFragments_eq_ok.mpr (.cons hf (conditionFragments_eq_ok.mp hfs))⟩

theorem exists_conditionFragments_of_fits {ps : List Predicate}
    (ih : ∀ p ∈ ps, (∀ sub ∈ p.selects, sub.Fits d) → ∃ f, p.fragment d = .ok f)
    (h : ∀ sub ∈ conditionSelects ps, sub.Fits d) : ∃ fs, conditionFragments d ps = .ok fs :=
  exists_conditionFragments fun p hp =>
    ih p hp fun sub hsub => h sub (mem_conditionSelects.mpr ⟨p, hp, hsub⟩)

/-- A condition and a select can be written if the windows in them fit. -/
theorem inherits_exists_fragment (d : Dialect) :
    Inherits (fun p => (∀ sub ∈ p.selects, sub.Fits d) → ∃ f, p.fragment d = .ok f)
      (fun q => (∀ sub ∈ q.selects, sub.Fits d) → ∃ f, q.selectFragment d = .ok f) where
  compare _ _ _ _ := ⟨_, Predicate.fragment_eq_ok.mpr rfl⟩
  inList _ _ _ := ⟨_, Predicate.fragment_eq_ok.mpr rfl⟩
  isNull _ _ := ⟨_, Predicate.fragment_eq_ok.mpr rfl⟩
  notNull _ _ := ⟨_, Predicate.fragment_eq_ok.mpr rfl⟩
  raw _ _ _ := ⟨_, Predicate.fragment_eq_ok.mpr rfl⟩
  inQuery _ _ ih h := by
    obtain ⟨select, hselect⟩ := ih h
    exact ⟨_, Predicate.fragment_eq_ok.mpr ⟨select, hselect, rfl⟩⟩
  and _ ih h := by
    obtain ⟨fs, hfs⟩ := exists_conditionFragments_of_fits ih h
    exact ⟨_, Predicate.fragment_eq_ok.mpr ⟨fs, hfs, rfl⟩⟩
  or _ ih h := by
    obtain ⟨fs, hfs⟩ := exists_conditionFragments_of_fits ih h
    exact ⟨_, Predicate.fragment_eq_ok.mpr ⟨fs, hfs, rfl⟩⟩
  not _ ih h := by
    obtain ⟨inner, hinner⟩ := ih h
    exact ⟨_, Predicate.fragment_eq_ok.mpr ⟨inner, hinner, rfl⟩⟩
  query q ih h := by
    have hself : q.Fits d := h q (Query.mem_selects.mpr (.inl rfl))
    obtain ⟨fs, hfs⟩ := exists_conditionFragments_of_fits ih fun sub hsub =>
      h sub (Query.mem_selects.mpr (.inr hsub))
    exact ⟨_, Query.selectFragment_eq_ok.mpr
      ⟨fs, hfs, Fragment.windowed_eq_ok_iff.mpr ⟨hself, rfl⟩⟩⟩

end Selects

namespace Query

variable {d : Dialect} {q : Query}

theorem exists_selectFragment (h : ∀ sub ∈ q.selects, sub.Fits d) :
    ∃ f, q.selectFragment d = .ok f :=
  of_inherits (inherits_exists_fragment d) q h

theorem exists_conditions (h : ∀ sub ∈ conditionSelects q.conditions, sub.Fits d) :
    ∃ fs, conditionFragments d q.conditions = .ok fs :=
  exists_conditionFragments_of_fits
    (fun p _ => Predicate.of_inherits (inherits_exists_fragment d) p) h

/-- The selects that are written into a statement have windows that fit. -/
theorem fits_of_mem_writtenSelects {f : Fragment} (hf : q.fragment d = .ok f) {sub : Query}
    (hsub : sub ∈ q.writtenSelects) : sub.Fits d := by
  obtain ⟨g, hg, -⟩ := holds_writtenSelects hf sub hsub
  obtain ⟨fs, -, hwindow⟩ := selectFragment_eq_ok.mp hg
  exact (Fragment.windowed_eq_ok_iff.mp hwindow).1

/-! ### The other clauses -/

theorem insertColumns_eq_nil_iff : q.insertColumns = [] ↔ ∀ row ∈ q.rows, row = [] := by
  have hmem : ∀ name, name ∈ q.insertColumns ↔ ∃ row ∈ q.rows, ∃ cell ∈ row, cell.1 = name := by
    intro name
    rw [insertColumns, mem_sortedDistinct]
    simp
  simp only [List.eq_nil_iff_forall_not_mem, hmem]
  constructor
  · intro hnone row hrow cell hcell
    exact hnone cell.1 ⟨row, hrow, cell, hcell, rfl⟩
  · rintro hempty name ⟨row, hrow, cell, hcell, -⟩
    exact hempty row hrow cell hcell

/-- The assignments of an update or a counter can be written if there are any, and the amount of a
counter has an absolute value. -/
theorem exists_changeFragment (h : ¬ q.Unbuildable d) (hmethod : q.method = .update ∨
    q.method = .counter) : ∃ f, q.changeFragment = .ok f := by
  unfold changeFragment
  rcases hmethod with hmethod | hmethod
  · rw [if_neg (by simp [hmethod])]
    exact ⟨_, setFragment_eq_ok.mpr ⟨fun hnone => h (.updateWithoutValues hmethod hnone), rfl⟩⟩
  · rw [if_pos hmethod]
    cases hcounter : q.counter with
    | none => exact absurd (.counterWithoutColumn hmethod hcounter) h
    | some counter =>
      exact ⟨_, counterFragment_eq_ok.mpr ⟨counter.column, counter.amount, hcounter,
        fun hleast => h (.leastAmount hmethod hcounter hleast), rfl⟩⟩

/-! ### Statements -/

/-- What has a fragment has no reason not to have one. -/
theorem not_unbuildable {f : Fragment} (hf : q.fragment d = .ok f) : ¬ q.Unbuildable d := by
  obtain ⟨htable, h⟩ := fragment_eq_ok.mp hf
  intro hreason
  cases hreason with
  | blankTable hblank => exact absurd (htable.symm.trans hblank) (by decide)
  | schemaMethod hmethod => rwa [hmethod] at h
  | insertWithoutRows hmethod hrows =>
    rw [hmethod] at h
    exact (insertFragment_eq_ok.mp h).1 hrows
  | insertWithoutColumns hmethod hrows =>
    rw [hmethod] at h
    exact (insertFragment_eq_ok.mp h).2.1 (insertColumns_eq_nil_iff.mpr hrows)
  | updateWithoutValues hmethod hassignments =>
    rw [hmethod] at h
    obtain ⟨assignments, -, hset, -⟩ := updateFragment_eq_ok.mp h
    rw [changeFragment, if_neg (by simp [hmethod])] at hset
    exact (setFragment_eq_ok.mp hset).1 hassignments
  | counterWithoutColumn hmethod hcounter =>
    rw [hmethod] at h
    obtain ⟨assignments, -, hset, -⟩ := updateFragment_eq_ok.mp h
    rw [changeFragment, if_pos hmethod] at hset
    obtain ⟨column, amount, hsome, -⟩ := counterFragment_eq_ok.mp hset
    exact absurd (hsome.symm.trans hcounter) (by simp)
  | leastAmount hmethod hcounter hamount =>
    rw [hmethod] at h
    obtain ⟨assignments, -, hset, -⟩ := updateFragment_eq_ok.mp h
    rw [changeFragment, if_pos hmethod] at hset
    obtain ⟨column, amount, hsome, hleast, -⟩ := counterFragment_eq_ok.mp hset
    obtain rfl := Option.some.inj (hsome.symm.trans hcounter)
    exact hleast hamount
  | refetchAfterDelete hmethod hstrategy hreturning hcolumns =>
    rw [hmethod] at h
    refine (deleteFragment_eq_ok.mp h).1 ⟨hstrategy, ?_⟩
    exact returningColumns?_isSome_iff.mpr ⟨_, hreturning, hcolumns⟩
  | window hsub hfits => exact hfits (fits_of_mem_writtenSelects hf hsub)

/-- **A query has a fragment unless there is a reason.** -/
theorem exists_fragment_iff : (∃ f, q.fragment d = .ok f) ↔ ¬ q.Unbuildable d := by
  refine ⟨fun ⟨f, hf⟩ => not_unbuildable hf, fun h => ?_⟩
  have htable : Text.isAllBlank q.table = false :=
    Bool.eq_false_iff.mpr fun hblank => h (.blankTable hblank)
  have hfits : ∀ sub ∈ q.writtenSelects, sub.Fits d := fun sub hsub =>
    by_contra fun hfits => h (.window hsub hfits)
  have hselect (hwritten : q.writtenSelects = q.selects) : ∃ f, q.selectFragment d = .ok f :=
    exists_selectFragment fun sub hsub => hfits sub (hwritten ▸ hsub)
  have hconditions (hwritten : q.writtenSelects = conditionSelects q.conditions) :
      ∃ fs, conditionFragments d q.conditions = .ok fs :=
    exists_conditions fun sub hsub => hfits sub (hwritten ▸ hsub)
  have hupdate (hmethod : q.method = .update ∨ q.method = .counter)
      (hwritten : q.writtenSelects = conditionSelects q.conditions) :
      ∃ f, q.updateFragment d = .ok f := by
    obtain ⟨assignments, hassignments⟩ := exists_changeFragment h hmethod
    obtain ⟨fs, hfs⟩ := hconditions hwritten
    exact ⟨_, updateFragment_eq_ok.mpr ⟨assignments, fs, hassignments, hfs, rfl⟩⟩
  simp only [fragment_eq_ok, and_iff_right htable]
  cases hmethod : q.method
  case select => exact hselect (by rw [writtenSelects, hmethod])
  case pluck => exact hselect (by rw [writtenSelects, hmethod])
  case first => exact hselect (by rw [writtenSelects, hmethod])
  case insert =>
    refine ⟨_, insertFragment_eq_ok.mpr ⟨fun hnone => h (.insertWithoutRows hmethod hnone),
      fun hnone => h (.insertWithoutColumns hmethod (insertColumns_eq_nil_iff.mp hnone)), rfl⟩⟩
  case update => exact hupdate (.inl hmethod) (by rw [writtenSelects, hmethod])
  case counter => exact hupdate (.inr hmethod) (by rw [writtenSelects, hmethod])
  case delete =>
    obtain ⟨fs, hfs⟩ := hconditions (by rw [writtenSelects, hmethod])
    refine ⟨_, deleteFragment_eq_ok.mpr ⟨?_, fs, hfs, rfl⟩⟩
    rintro ⟨hstrategy, hreturning⟩
    obtain ⟨columns, hcolumns, hne⟩ := returningColumns?_isSome_iff.mp hreturning
    exact h (.refetchAfterDelete hmethod hstrategy hcolumns hne)
  case schema => exact absurd (.schemaMethod hmethod) h

theorem exists_draft_iff : (∃ draft, q.draft d = .ok draft) ↔ ¬ q.Unbuildable d := by
  rw [← exists_fragment_iff]
  constructor
  · rintro ⟨draft, hdraft⟩
    exact ⟨_, fragment_of_draft hdraft⟩
  · rintro ⟨f, hf⟩
    obtain ⟨draft, hdraft, -⟩ := fragment_eq_ok_iff_draft.mp hf
    exact ⟨draft, hdraft⟩

/-- The bounds of every select in a statement are bound exactly, after the values of the conditions
of that select. -/
theorem exists_bindings_of_mem_writtenSelects {f : Fragment} (hf : q.fragment d = .ok f)
    {sub : Query} (hsub : sub ∈ q.writtenSelects) :
    ∃ before bounds after,
      f.bindings = before ++
        (conditionValues d.limitStrategy sub.conditions ++ bounds).map .value ++ after ∧
      AreInts bounds (windowBounds d.limitStrategy sub.rowLimit sub.offset) := by
  obtain ⟨g, hg, left, right, rfl⟩ := holds_writtenSelects hf sub hsub
  have hbindings : g.bindings = (sub.selectValues d.limitStrategy).map .value :=
    of_inherits (bindings_inherits d) sub g hg
  refine ⟨Fragment.bindings left, windowValues d.limitStrategy sub.rowLimit sub.offset,
    Fragment.bindings right, ?_, areInts_windowValues (fits_of_mem_writtenSelects hf hsub)⟩
  rw [Fragment.bindings_append, Fragment.bindings_append, hbindings, selectValues_eq,
    conditionValues_eq]

end Query

namespace Profile

/-- A query is refused for the reason for which it has no draft. -/
theorem compile_query_eq (p : Profile) (q : Query) (transform : Option Transform) :
    p.compile (.query q transform) =
      match q.draft p.dialect with
      | .error cause => .error (.compilation cause.detail)
      | .ok draft => .ok (.single (q.statementOf (q.writer p.dialect p.quoting) draft)) := by
  simp only [compile, Request.compile, Query.compile_eq]
  cases q.draft p.dialect <;> rfl

/-- **Exactly the queries that cannot be built are refused.**  A refusal is a compilation error, and
there is one if and only if there is a reason for it.  Any other query has one statement, with text,
and wherever a select stands in the statement, the bounds of its window are bound as the very
numbers that they are. -/
theorem compile_refuses_iff (p : Profile) (q : Query) (transform : Option Transform) :
    ((∃ e, p.compile (.query q transform) = .error e) ↔ q.Unbuildable p.dialect) ∧
    (∀ e, p.compile (.query q transform) = .error e → ∃ detail, e = .compilation detail) ∧
    (¬ q.Unbuildable p.dialect →
      ∃ s, p.compile (.query q transform) = .ok (.single s) ∧
        Text.isAllBlank s.sql = false ∧
        ∀ sub ∈ q.writtenSelects, ∃ before bounds after,
          s.bindings = before ++
            (conditionValues p.dialect.limitStrategy sub.conditions ++ bounds).map .value ++
              after ∧
          AreInts bounds (windowBounds p.dialect.limitStrategy sub.rowLimit sub.offset)) := by
  rw [compile_query_eq]
  cases hdraft : q.draft p.dialect with
  | error cause =>
    have hreason : q.Unbuildable p.dialect := by
      by_contra h
      obtain ⟨draft, hok⟩ := Query.exists_draft_iff.mpr h
      rw [hdraft] at hok
      cases hok
    refine ⟨⟨fun _ => hreason, fun _ => ⟨_, rfl⟩⟩, fun e he => ?_, fun h => absurd hreason h⟩
    exact ⟨cause.detail, (Except.error.inj he).symm⟩
  | ok draft =>
    have hf := Query.fragment_of_draft hdraft
    have hbuilt : ¬ q.Unbuildable p.dialect := Query.not_unbuildable hf
    have htext := Query.isAllBlank_sql_statementOf hdraft (q.writer p.dialect p.quoting)
    refine ⟨⟨?_, fun hreason => absurd hreason hbuilt⟩, fun e he => ?_, fun _ => ?_⟩
    · rintro ⟨e, he⟩
      cases he
    · cases he
    · exact ⟨_, rfl, htext, fun sub hsub =>
        Query.exists_bindings_of_mem_writtenSelects hf hsub⟩

end Profile

end PolySql

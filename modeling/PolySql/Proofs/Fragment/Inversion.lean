import Mathlib.Data.List.Forall2
import Mathlib.Tactic.SplitIfs
import PolySql.Statement.OfQuery

/-!
# What a fragment is when there is one

The fragments of conditions and statements are computations that may fail.  For each of them there is
one equivalence here that says when it succeeds, and with which fragment; what follows about
fragments goes through these and opens none of the computations again.
-/

namespace PolySql

/-! ### Conditions and selects -/

theorem bind_eq_ok {ε α β : Type} {act : Except ε α} {next : α → Except ε β} {b : β} :
    (act >>= next) = .ok b ↔ ∃ a, act = .ok a ∧ next a = .ok b := by
  cases act with
  | error e => simp [bind, Except.bind]
  | ok a => simp [bind, Except.bind]

theorem bind_pure_eq_ok {ε α β : Type} {act : Except ε α} {g : α → β} {b : β} :
    (act >>= fun a => pure (g a)) = .ok b ↔ ∃ a, act = .ok a ∧ b = g a := by
  rw [bind_eq_ok]
  refine exists_congr fun a => and_congr_right fun _ => ?_
  change Except.ok (g a) = .ok b ↔ b = g a
  rw [Except.ok.injEq, eq_comm]

theorem bind_eq_error {ε α β : Type} {act : Except ε α} {next : α → Except ε β} {e : ε} :
    (act >>= next) = .error e ↔ act = .error e ∨ ∃ a, act = .ok a ∧ next a = .error e := by
  cases act with
  | error e' => simp [bind, Except.bind]
  | ok a => simp [bind, Except.bind]

theorem bind_pure_eq_error {ε α β : Type} {act : Except ε α} {g : α → β} {e : ε} :
    (act >>= fun a => pure (g a)) = .error e ↔ act = .error e := by
  simp [bind_eq_error, pure, Except.pure]

/-- The fragments of conditions are those of each of them, in order. -/
theorem conditionFragments_eq_ok {d : Dialect} {ps : List Predicate} {fs : List Fragment} :
    conditionFragments d ps = .ok fs ↔ List.Forall₂ (fun p f => p.fragment d = .ok f) ps fs := by
  induction ps generalizing fs with
  | nil => cases fs <;> simp [conditionFragments]
  | cons p ps ih =>
    rw [conditionFragments, bind_eq_ok]
    constructor
    · rintro ⟨f, hf, h⟩
      obtain ⟨rest, hrest, rfl⟩ := bind_pure_eq_ok.mp h
      exact .cons hf (ih.mp hrest)
    · intro h
      cases h with
      | cons hf hrest => exact ⟨_, hf, bind_pure_eq_ok.mpr ⟨_, ih.mpr hrest, rfl⟩⟩

theorem exists_of_mem_conditionFragments {d : Dialect} {ps : List Predicate} {fs : List Fragment}
    (h : conditionFragments d ps = .ok fs) {f : Fragment} (hf : f ∈ fs) :
    ∃ p ∈ ps, p.fragment d = .ok f := by
  induction conditionFragments_eq_ok.mp h with
  | nil => exact absurd hf List.not_mem_nil
  | cons hhead htail ih =>
    rcases List.mem_cons.mp hf with rfl | hf
    · exact ⟨_, List.mem_cons_self, hhead⟩
    · obtain ⟨p, hp, hpf⟩ := ih (conditionFragments_eq_ok.mpr htail) hf
      exact ⟨p, List.mem_cons_of_mem _ hp, hpf⟩

theorem exists_mem_conditionFragments {d : Dialect} {ps : List Predicate} {fs : List Fragment}
    (h : conditionFragments d ps = .ok fs) {p : Predicate} (hp : p ∈ ps) :
    ∃ f ∈ fs, p.fragment d = .ok f := by
  induction conditionFragments_eq_ok.mp h with
  | nil => exact absurd hp List.not_mem_nil
  | cons hhead htail ih =>
    rcases List.mem_cons.mp hp with rfl | hp
    · exact ⟨_, List.mem_cons_self, hhead⟩
    · obtain ⟨f, hf, hpf⟩ := ih (conditionFragments_eq_ok.mpr htail) hp
      exact ⟨f, List.mem_cons_of_mem _ hf, hpf⟩

/-- The fragment of a condition is made of those of its parts. -/
theorem Predicate.fragment_eq_ok {d : Dialect} {p : Predicate} {f : Fragment} :
    p.fragment d = .ok f ↔
      match p with
      | .compare column op v => f = [.ident column, .text (" " ++ op.sql ++ " "), .value v]
      | .inList column values =>
        f = if values.isEmpty then [.text "1 = 0"]
          else [.ident column, .text " in ("] ++ Fragment.valueList values ++ [.text ")"]
      | .inQuery column query =>
        ∃ select, query.selectFragment d = .ok select ∧
          f = [.ident column, .text " in ", .text "("] ++ select ++ [.text ")"]
      | .isNull column => f = [.ident column, .text " is null"]
      | .notNull column => f = [.ident column, .text " is not null"]
      | .raw sql values => f = [.raw sql values]
      | .and children =>
        ∃ fs, conditionFragments d children = .ok fs ∧
          f = if children.isEmpty then [.text "1 = 1"]
            else Fragment.wrapped "(" ")" (Fragment.joined " and " fs)
      | .or children =>
        ∃ fs, conditionFragments d children = .ok fs ∧
          f = if children.isEmpty then [.text "1 = 0"]
            else Fragment.wrapped "(" ")" (Fragment.joined " or " fs)
      | .not child =>
        ∃ inner, child.fragment d = .ok inner ∧ f = Fragment.wrapped "not (" ")" inner := by
  cases p with
  | compare column op v => rw [Predicate.fragment, Except.ok.injEq, eq_comm]
  | inList column values => rw [Predicate.fragment, Except.ok.injEq, eq_comm]
  | inQuery column query => rw [Predicate.fragment, bind_pure_eq_ok]
  | isNull column => rw [Predicate.fragment, Except.ok.injEq, eq_comm]
  | notNull column => rw [Predicate.fragment, Except.ok.injEq, eq_comm]
  | raw sql values => rw [Predicate.fragment, Except.ok.injEq, eq_comm]
  | and children => rw [Predicate.fragment, bind_pure_eq_ok]
  | or children => rw [Predicate.fragment, bind_pure_eq_ok]
  | not child => rw [Predicate.fragment, bind_pure_eq_ok]

/-- A select is its conditions between its other clauses, cut to its window. -/
theorem Query.selectFragment_eq_ok {d : Dialect} {q : Query} {f : Fragment} :
    q.selectFragment d = .ok f ↔
      ∃ fs, conditionFragments d q.conditions = .ok fs ∧
        Fragment.windowed d.limitStrategy (!q.ordering.isEmpty)
          (Fragment.selectHead d q ++ Fragment.whereClause fs ++ Fragment.orderBy q.ordering)
          q.rowLimit q.offset = .ok f := by
  cases q
  rw [Query.selectFragment, bind_eq_ok]

namespace Query

/-! ### Changes -/

theorem setFragment_eq_ok {q : Query} {f : Fragment} :
    q.setFragment = .ok f ↔ q.assignments ≠ [] ∧
      f = Fragment.joined ", "
        (q.assignments.map fun (column, v) => [.ident column, .text " = ", .value v]) := by
  unfold setFragment
  split_ifs with h
  · simp [List.isEmpty_iff.mp h]
  · rw [and_iff_right (by simpa using h), Except.ok.injEq, eq_comm]

/-- The sign under which the amount of a counter is added. -/
def counterSign (amount : Int64) : String :=
  if amount < 0 then " - " else " + "

theorem counterFragment_eq_ok {q : Query} {f : Fragment} :
    q.counterFragment = .ok f ↔
      ∃ column amount, q.counter = some { column, amount } ∧ amount ≠ Int64.minValue ∧
        f = [.ident column, .text " = ", .ident column, .text (counterSign amount),
          .value (.int amount.abs)] := by
  unfold counterFragment
  cases q.counter with
  | none => simp
  | some counter =>
    obtain ⟨column, amount⟩ := counter
    by_cases hleast : amount = Int64.minValue
    · simp [hleast]
    · dsimp only
      rw [if_neg hleast]
      constructor
      · intro h
        exact ⟨column, amount, rfl, hleast, (Except.ok.inj h).symm⟩
      · rintro ⟨_, _, hcounter, -, rfl⟩
        -- the column and the amount are those of the counter at hand
        obtain ⟨rfl, rfl⟩ := Counter.mk.inj (Option.some.inj hcounter)
        rfl

/-- The assignments of an update or a counter. -/
def changeFragment (q : Query) : Except CompileError Fragment :=
  if q.method = .counter then q.counterFragment else q.setFragment

section Drafts

variable {d : Dialect} {q : Query} {draft : Draft}

theorem insertDraft_eq_ok :
    q.insertDraft d = .ok draft ↔
      q.rows ≠ [] ∧ q.insertColumns ≠ [] ∧ draft = q.insertBody d := by
  unfold insertDraft
  by_cases hrows : q.rows = []
  · simp [hrows]
  by_cases hcolumns : q.insertColumns = []
  · simp [hrows, hcolumns]
  rw [if_neg (by simpa using hrows), if_neg (by simpa using hcolumns),
    and_iff_right hrows, and_iff_right hcolumns, Except.ok.injEq, eq_comm]

theorem updateDraft_eq_ok :
    q.updateDraft d = .ok draft ↔
      ∃ assignments conditions, q.changeFragment = .ok assignments ∧
        conditionFragments d q.conditions = .ok conditions ∧
        draft = (Draft.trailingReturning d q.table q.returningColumns?).after
          ([.text "update ", .ident q.table, .text " set "] ++ assignments ++
            Fragment.output d "inserted" q.returningColumns? ++
            Fragment.whereClause conditions) := by
  -- both kinds of change compute their assignments first and share what follows
  have hbind : q.updateDraft d = q.changeFragment >>= fun assignments =>
      conditionFragments d q.conditions >>= fun conditions =>
        pure ((Draft.trailingReturning d q.table q.returningColumns?).after
          ([.text "update ", .ident q.table, .text " set "] ++ assignments ++
            Fragment.output d "inserted" q.returningColumns? ++
            Fragment.whereClause conditions)) := by
    unfold updateDraft changeFragment
    split_ifs <;> rfl
  rw [hbind, bind_eq_ok]
  constructor
  · rintro ⟨assignments, hassignments, h⟩
    obtain ⟨conditions, hconditions, rfl⟩ := bind_pure_eq_ok.mp h
    exact ⟨assignments, conditions, hassignments, hconditions, rfl⟩
  · rintro ⟨assignments, conditions, hassignments, hconditions, rfl⟩
    exact ⟨assignments, hassignments, bind_pure_eq_ok.mpr ⟨conditions, hconditions, rfl⟩⟩

theorem deleteDraft_eq_ok :
    q.deleteDraft d = .ok draft ↔
      ¬ (d.returningStrategy = .refetch ∧ q.returningColumns?.isSome) ∧
      ∃ conditions, conditionFragments d q.conditions = .ok conditions ∧
        draft = (Draft.trailingReturning d q.table q.returningColumns?).after
          ([.text "delete from ", .ident q.table] ++
            Fragment.output d "deleted" q.returningColumns? ++
            Fragment.whereClause conditions) := by
  unfold deleteDraft
  split_ifs with hrefetch
  · simp [hrefetch, throw, throwThe, MonadExceptOf.throw, bind, Except.bind]
  · rw [and_iff_right hrefetch]
    exact bind_pure_eq_ok

theorem draft_eq_ok :
    q.draft d = .ok draft ↔ Text.isAllBlank q.table = false ∧
      match q.method with
      | .select | .pluck | .first => ∃ f, q.selectFragment d = .ok f ∧ draft = { fragment := f }
      | .insert => q.insertDraft d = .ok draft
      | .update | .counter => q.updateDraft d = .ok draft
      | .delete => q.deleteDraft d = .ok draft
      | .schema => False := by
  unfold Query.draft
  split_ifs with hblank
  · simp [hblank]
  · rw [and_iff_right (by simpa using hblank)]
    cases q.method <;> first | exact bind_pure_eq_ok | simp

end Drafts

/-! ### Fragments of drafts -/

/-- The fragment of a query. -/
def fragment (d : Dialect) (q : Query) : Except CompileError Fragment := do
  return (← q.draft d).fragment

/-- The fragment of an insert. -/
def insertFragment (d : Dialect) (q : Query) : Except CompileError Fragment := do
  return (← q.insertDraft d).fragment

/-- The fragment of an update or a counter. -/
def updateFragment (d : Dialect) (q : Query) : Except CompileError Fragment := do
  return (← q.updateDraft d).fragment

/-- The fragment of a delete. -/
def deleteFragment (d : Dialect) (q : Query) : Except CompileError Fragment := do
  return (← q.deleteDraft d).fragment

section Fragments

variable {d : Dialect} {q : Query} {f : Fragment}

theorem fragment_eq_ok_iff_draft :
    q.fragment d = .ok f ↔ ∃ draft, q.draft d = .ok draft ∧ f = draft.fragment :=
  bind_pure_eq_ok

theorem fragment_of_draft {draft : Draft} (h : q.draft d = .ok draft) :
    q.fragment d = .ok draft.fragment :=
  fragment_eq_ok_iff_draft.mpr ⟨draft, h, rfl⟩

theorem insertFragment_eq_ok :
    q.insertFragment d = .ok f ↔
      q.rows ≠ [] ∧ q.insertColumns ≠ [] ∧ f = (q.insertBody d).fragment := by
  rw [insertFragment, bind_pure_eq_ok]
  simp only [insertDraft_eq_ok, and_assoc, exists_and_left, exists_eq_left]

theorem updateFragment_eq_ok :
    q.updateFragment d = .ok f ↔
      ∃ assignments conditions, q.changeFragment = .ok assignments ∧
        conditionFragments d q.conditions = .ok conditions ∧
        f = [.text "update ", .ident q.table, .text " set "] ++ assignments ++
          Fragment.output d "inserted" q.returningColumns? ++ Fragment.whereClause conditions ++
          (Draft.trailingReturning d q.table q.returningColumns?).fragment := by
  rw [updateFragment, bind_pure_eq_ok]
  constructor
  · rintro ⟨draft, hdraft, rfl⟩
    obtain ⟨assignments, conditions, hassignments, hconditions, rfl⟩ := updateDraft_eq_ok.mp hdraft
    exact ⟨assignments, conditions, hassignments, hconditions, rfl⟩
  · rintro ⟨assignments, conditions, hassignments, hconditions, rfl⟩
    exact ⟨_, updateDraft_eq_ok.mpr ⟨assignments, conditions, hassignments, hconditions, rfl⟩, rfl⟩

theorem deleteFragment_eq_ok :
    q.deleteFragment d = .ok f ↔
      ¬ (d.returningStrategy = .refetch ∧ q.returningColumns?.isSome) ∧
      ∃ conditions, conditionFragments d q.conditions = .ok conditions ∧
        f = [.text "delete from ", .ident q.table] ++
          Fragment.output d "deleted" q.returningColumns? ++ Fragment.whereClause conditions ++
          (Draft.trailingReturning d q.table q.returningColumns?).fragment := by
  rw [deleteFragment, bind_pure_eq_ok]
  constructor
  · rintro ⟨draft, hdraft, rfl⟩
    obtain ⟨hdelete, conditions, hconditions, rfl⟩ := deleteDraft_eq_ok.mp hdraft
    exact ⟨hdelete, conditions, hconditions, rfl⟩
  · rintro ⟨hdelete, conditions, hconditions, rfl⟩
    exact ⟨_, deleteDraft_eq_ok.mpr ⟨hdelete, conditions, hconditions, rfl⟩, rfl⟩

theorem fragment_eq_ok :
    q.fragment d = .ok f ↔ Text.isAllBlank q.table = false ∧
      match q.method with
      | .select | .pluck | .first => q.selectFragment d = .ok f
      | .insert => q.insertFragment d = .ok f
      | .update | .counter => q.updateFragment d = .ok f
      | .delete => q.deleteFragment d = .ok f
      | .schema => False := by
  unfold fragment Query.draft
  split_ifs with hblank
  · simp [hblank, bind, Except.bind]
  · rw [and_iff_right (by simpa using hblank)]
    have hselect : ((do return { fragment := ← q.selectFragment d } : Except CompileError Draft) >>=
        fun draft => pure draft.fragment) = .ok f ↔ q.selectFragment d = .ok f := by
      cases q.selectFragment d with
      | error e => rfl
      | ok g => rfl
    cases q.method with
    | select => exact hselect
    | pluck => exact hselect
    | first => exact hselect
    | insert => rfl
    | update => rfl
    | counter => rfl
    | delete => rfl
    | schema => simp [bind, Except.bind]

end Fragments

end Query

end PolySql

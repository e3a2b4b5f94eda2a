import PolySql.Proofs.Sqlite.View

/-!
# Databases in shared files

`Connection.Effect` says what a job can do to a connection that has its table for itself.  In
`Library.shared` the connections share a file, and one of them at a time may be writing.  A job on
such a connection does what it would do on a copy of the file (`SharedHandle.exists_effect`), from
which the promises of `View.Lawful` follow.
-/

namespace PolySql.Sqlite

/-! ### Values -/

/-- The values in a table. -/
def tableValues (table : Option (List Stored)) : Set Value :=
  {v | ∃ row ∈ table.getD [], row.toValue = v}

/-- The values that are sent with a job. -/
def Job.sentValues : Job → Set Value
  | .batch _ => ∅
  | .statement _ values => {v | ∃ sent ∈ values, sent.toValue = v}

/-- The values in the rows of a response. -/
def shownValues (response : Response) : Set Value :=
  {v | ∃ row ∈ response.resultSet.rows, v ∈ row.values}

theorem shownValues_ofCount (n : Nat) : shownValues (.ofCount n) = ∅ := by
  simp [shownValues, Response.ofCount]

theorem tableValues_subset {rows rows' : List Stored} (h : rows ⊆ rows') :
    tableValues (some rows) ⊆ tableValues (some rows') := by
  rintro v ⟨row, hrow, rfl⟩
  exact ⟨row, h hrow, rfl⟩

theorem tableValues_append (rows added : List Stored) :
    tableValues (some (rows ++ added)) = tableValues (some rows) ∪ tableValues (some added) := by
  ext v
  simp [tableValues, or_and_right, exists_or]

/-! ### Jobs on connections -/

namespace Connection

/-- What a job can do to a connection. -/
inductive Effect (job : Job) (c : Connection) : Outcome → Connection → Prop
  | failed (report : DriverError) : Effect job c (.finished (.error report)) c
  | begun (hbefore : c.before = none) :
    Effect job c (.finished (.ok none)) { c with before := some c.table }
  | committed {table : Option (List Stored)} (hbefore : c.before = some table) :
    Effect job c (.finished (.ok none)) { c with before := none }
  | rolledBack {table : Option (List Stored)} (hbefore : c.before = some table) :
    Effect job c (.finished (.ok none)) { c with table, before := none }
  | ran {response : Response} {table : Option (List Stored)} {changes : Nat}
    (htable : tableValues table ⊆ tableValues c.table ∪ job.sentValues)
    (hshown : shownValues response ⊆ tableValues c.table) :
    Effect job c (.finished (.ok (some response))) { c with table, changes }

section Statements

variable {c after : Connection} {response : Response}

theorem create_eq_ok (h : c.create = .ok (response, after)) :
    response = .ofCount c.changes ∧ after = { c with table := some [] } := by
  unfold create at h
  split at h
  · obtain ⟨hresponse, hafter⟩ := Prod.mk.inj (Except.ok.inj h)
    exact ⟨hresponse.symm, hafter.symm⟩
  · cases h

theorem select_eq_ok (h : c.select = .ok (response, after)) :
    ∃ rows, c.table = some rows ∧ after = c ∧
      response = .ofRows (.ofRows ["v"] (rows.map fun row => [row.toValue])) := by
  unfold select rows at h
  cases htable : c.table with
  | none =>
    rw [htable] at h
    cases h
  | some rows =>
    rw [htable] at h
    obtain ⟨hresponse, hafter⟩ := Prod.mk.inj (Except.ok.inj h)
    exact ⟨rows, rfl, hafter.symm, hresponse.symm⟩

theorem insert_eq_ok {added : List Stored} (h : c.insert added = .ok (response, after)) :
    ∃ rows, c.table = some rows ∧ response = .ofCount added.length ∧
      after = c.withRows (rows ++ added) added.length := by
  unfold insert rows at h
  cases hadded : added.isEmpty with
  | true =>
    rw [hadded] at h
    cases h
  | false =>
    rw [hadded] at h
    cases htable : c.table with
    | none =>
      rw [htable] at h
      cases h
    | some rows =>
      rw [htable] at h
      obtain ⟨hresponse, hafter⟩ := Prod.mk.inj (Except.ok.inj h)
      exact ⟨rows, rfl, hresponse.symm, hafter.symm⟩

theorem delete_eq_ok {wanted : Stored} (h : c.delete wanted = .ok (response, after)) :
    ∃ rows n, c.table = some rows ∧ response = .ofCount n ∧
      after = c.withRows (rows.filter fun row => !row.is wanted) n := by
  unfold delete rows at h
  cases htable : c.table with
  | none =>
    rw [htable] at h
    cases h
  | some rows =>
    rw [htable] at h
    obtain ⟨hresponse, hafter⟩ := Prod.mk.inj (Except.ok.inj h)
    exact ⟨rows, _, rfl, hresponse.symm, hafter.symm⟩

/-- A statement that is run finds the rows that it shows, and leaves rows that were found or sent
with it. -/
theorem effect_of_run {sql : String} {values : List Stored}
    (h : c.run sql values = .ok (response, after)) :
    Effect (.statement sql values) c (.finished (.ok (some response))) after := by
  unfold run at h
  split at h
  next =>
    obtain ⟨rfl, rfl⟩ := create_eq_ok h
    have hempty : tableValues (some []) = ∅ := by simp [tableValues]
    refine .ran ?_ ?_
    · rw [hempty]
      exact Set.empty_subset _
    · rw [shownValues_ofCount]
      exact Set.empty_subset _
  next =>
    split at h
    next =>
      obtain ⟨rows, htable, rfl, rfl⟩ := select_eq_ok h
      refine .ran Set.subset_union_left ?_
      rintro v ⟨row, hrow, hv⟩
      rw [Response.ofRows, ResultSet.rows_ofRows, List.map_map] at hrow
      obtain ⟨stored, hstored, rfl⟩ := List.mem_map.mp hrow
      refine ⟨stored, ?_, (List.mem_singleton.mp hv).symm⟩
      rw [htable]
      exact hstored
    next =>
      split at h
      next =>
        obtain ⟨rows, htable, rfl, rfl⟩ := insert_eq_ok h
        refine .ran ?_ ?_
        · rw [tableValues_append, htable]
          exact Set.union_subset_union_right _ subset_rfl
        · rw [shownValues_ofCount]
          exact Set.empty_subset _
      next =>
        split at h
        next wanted =>
          split at h
          next =>
            obtain ⟨rows, n, htable, rfl, rfl⟩ := delete_eq_ok h
            refine .ran ?_ ?_
            · rw [htable]
              exact (tableValues_subset List.filter_sublist.subset).trans Set.subset_union_left
            · rw [shownValues_ofCount]
              exact Set.empty_subset _
          next => cases h
        next => cases h

theorem effect_of_batch {words : String} (h : c.batch words = .ok after) :
    Effect (.batch words) c (.finished (.ok none)) after := by
  unfold batch at h
  split at h
  next =>
    split at h
    next houtside =>
      obtain rfl := Except.ok.inj h
      exact .begun (Option.isNone_iff_eq_none.mp houtside)
    next => cases h
  next =>
    split at h
    next =>
      split at h
      next => cases h
      next hinside =>
        obtain rfl := Except.ok.inj h
        cases hbefore : c.before with
        | none =>
          rw [isAutocommit, hbefore] at hinside
          exact absurd rfl hinside
        | some table => exact .committed hbefore
    next =>
      split at h
      next =>
        split at h
        next => cases h
        next table hbefore =>
          obtain rfl := Except.ok.inj h
          exact .rolledBack hbefore
      next => cases h

end Statements

/-- Every job has such an effect. -/
theorem effect (job : Job) (c : Connection) : Effect job c (c.perform job).1 (c.perform job).2 := by
  cases job with
  | batch words =>
    cases hbatch : c.batch words with
    | error report =>
      simp only [perform, hbatch]
      exact .failed report
    | ok after =>
      simp only [perform, hbatch]
      exact effect_of_batch hbatch
  | statement sql values =>
    cases hrun : c.run sql values with
    | error report =>
      simp only [perform, hrun]
      exact .failed report
    | ok done =>
      simp only [perform, hrun]
      exact effect_of_run hrun

/-- The table that is left if nothing more is written and the transaction is rolled back. -/
def kept (c : Connection) : Option (List Stored) :=
  c.before.getD c.table

theorem kept_of_isAutocommit {c : Connection} (h : c.isAutocommit) : c.kept = c.table := by
  rw [kept, Option.isNone_iff_eq_none.mp h]
  rfl

section Effect

variable {job : Job} {outcome : Outcome} {c after : Connection}

theorem Effect.kept_of_inside (h : Effect job c outcome after) (hinside : ¬ after.isAutocommit) :
    after.kept = c.kept := by
  cases h with
  | failed => rfl
  | begun hbefore =>
    rw [kept, kept, hbefore]
    rfl
  | committed => exact absurd rfl hinside
  | rolledBack => exact absurd rfl hinside
  | ran =>
    cases hbefore : c.before with
    | none =>
      rw [isAutocommit, hbefore] at hinside
      exact absurd rfl hinside
    | some table => simp only [kept, hbefore, Option.getD_some]

theorem Effect.table_subset_kept (h : Effect job c outcome after) :
    tableValues after.table ⊆ tableValues c.table ∪ tableValues c.kept ∪ job.sentValues := by
  have htable : tableValues c.table ⊆
      tableValues c.table ∪ tableValues c.kept ∪ job.sentValues :=
    Set.subset_union_left.trans Set.subset_union_left
  cases h with
  | failed => exact htable
  | begun => exact htable
  | committed => exact htable
  | @rolledBack table hbefore =>
    have hkept : c.kept = table := by rw [kept, hbefore, Option.getD_some]
    rw [← hkept]
    exact Set.subset_union_right.trans Set.subset_union_left
  | ran hafter _ => exact hafter.trans (Set.union_subset_union_left _ Set.subset_union_left)

theorem Effect.kept_subset (h : Effect job c outcome after) :
    tableValues after.kept ⊆ tableValues c.table ∪ tableValues c.kept ∪ job.sentValues := by
  by_cases hinside : after.isAutocommit
  · rw [kept_of_isAutocommit hinside]
    exact h.table_subset_kept
  · rw [h.kept_of_inside hinside]
    exact Set.subset_union_right.trans Set.subset_union_left

theorem Effect.table_subset (h : Effect job c outcome after) :
    tableValues after.table ⊆ tableValues c.table ∪ tableValues after.kept ∪ job.sentValues := by
  by_cases hinside : after.isAutocommit
  · rw [kept_of_isAutocommit hinside]
    exact Set.subset_union_right.trans Set.subset_union_left
  · rw [h.kept_of_inside hinside]
    exact h.table_subset_kept

theorem Effect.shown_subset {response : Response}
    (h : Effect job c (.finished (.ok (some response))) after) :
    shownValues response ⊆ tableValues c.table := by
  cases h with
  | ran _ hshown => exact hshown

end Effect

end Connection

/-! ### Databases in shared files -/

/-- How far a connection to a shared file has come in a transaction. -/
inductive Stage where
  | outside
  | reading
  /-- It has written, and finds the table as given. -/
  | writing (table : Option (List Stored))
  deriving DecidableEq

/-- A connection to a shared file. -/
structure SharedHandle where
  stage : Stage := .outside
  changes : Nat := 0

/-- A shared file: its table, and whether a connection is writing. -/
structure SharedFile where
  table : Option (List Stored)
  locked : Bool := false

namespace SharedHandle

/-- Whether the connection is writing. -/
def writes (h : SharedHandle) : Bool :=
  match h.stage with
  | .writing _ => true
  | _ => false

/-- The connection as it would be if it had a copy of the file for itself. -/
def alone (h : SharedHandle) (file : Option (List Stored)) : Connection :=
  match h.stage with
  | .outside => { table := file, changes := h.changes }
  | .reading => { table := file, before := some file, changes := h.changes }
  | .writing table => { table, before := some file, changes := h.changes }

/-- Another connection is writing. -/
def locked : DriverError := { code := some 5, message := "database is locked" }

/-- Whether the connection is writing after a job, given the connection after it. -/
def writesAfter (h : SharedHandle) (file : SharedFile) (after : Connection) : Bool :=
  h.writes || after.table != (h.alone file.table).table

/-- Write back what a job made of a copy of the file, unless another connection is writing.  Nothing
goes to the file before the end of the transaction. -/
def settle (h : SharedHandle) (file : SharedFile) (outcome : Outcome) (after : Connection) :
    Done SharedFile SharedHandle :=
  if h.writesAfter file after && file.locked && !h.writes then
    { outcome := .finished (.error locked), handle := h, file }
  else if after.isAutocommit then
    { outcome
      handle := { changes := after.changes }
      file := { table := after.table, locked := file.locked && !h.writesAfter file after } }
  else if h.writesAfter file after then
    { outcome
      handle := { stage := .writing after.table, changes := after.changes }
      file := { file with locked := true } }
  else { outcome, handle := { stage := .reading, changes := after.changes }, file }

/-- Do a job. -/
def perform (h : SharedHandle) (job : Job) (file : SharedFile) : Done SharedFile SharedHandle :=
  let c := h.alone file.table
  h.settle file (c.perform job).1 (c.perform job).2

end SharedHandle

/-- SQLite on a file that may have a table already.  A connection that writes keeps the others from
writing until its transaction ends or it is closed; those that read hold nothing up. -/
def Library.shared (table : Option (List Stored)) : Library where
  File := SharedFile
  Handle := SharedHandle
  file := { table }
  connect file := (.ok {}, file)
  isAutocommit h := h.stage = .outside
  perform job h file := h.perform job file
  close h file := { file with locked := file.locked && !h.writes }

namespace SharedHandle

@[simp] theorem kept_alone (h : SharedHandle) (file : Option (List Stored)) :
    (h.alone file).kept = file := by
  unfold alone
  split <;> rfl

@[simp] theorem isAutocommit_alone (h : SharedHandle) (file : Option (List Stored)) :
    (h.alone file).isAutocommit = decide (h.stage = .outside) := by
  unfold alone
  split <;> simp_all [Connection.isAutocommit]

/-- A connection that is not writing finds what is in the file. -/
theorem table_alone_of_not_writes {h : SharedHandle} (hw : h.writes = false)
    (file : Option (List Stored)) : (h.alone file).table = file := by
  unfold writes at hw
  unfold alone
  split <;> simp_all

/-- A job on a shared file is a job on a copy of it, of which the file gets what is kept. -/
theorem exists_effect_settle {h : SharedHandle} {file : SharedFile} {job : Job} {outcome : Outcome}
    {after : Connection} (heffect : Connection.Effect job (h.alone file.table) outcome after) :
    let done := h.settle file outcome after
    ∃ after', Connection.Effect job (h.alone file.table) done.outcome after' ∧
      (done.handle.stage = .outside ↔ after'.isAutocommit) ∧
      done.file.table = after'.kept ∧ (done.handle.alone after'.kept).table = after'.table := by
  dsimp only
  unfold settle
  split
  next =>
    -- the job did not get the lock, and failed
    refine ⟨h.alone file.table, .failed locked, ?_, (kept_alone _ _).symm, ?_⟩
    · rw [isAutocommit_alone, decide_eq_true_iff]
    · rw [kept_alone]
  next =>
    split
    next houtside =>
      refine ⟨after, heffect, ⟨fun _ => houtside, fun _ => rfl⟩, ?_, ?_⟩
      · exact (Connection.kept_of_isAutocommit houtside).symm
      · exact Connection.kept_of_isAutocommit houtside
    next hinside =>
      have hkept : after.kept = file.table := by
        rw [heffect.kept_of_inside hinside, kept_alone]
      split
      next =>
        refine ⟨after, heffect, ⟨by simp, fun houtside => absurd houtside hinside⟩, hkept.symm, ?_⟩
        rfl
      next hwrites =>
        refine ⟨after, heffect, ⟨by simp, fun houtside => absurd houtside hinside⟩, hkept.symm, ?_⟩
        obtain ⟨hw, hsame⟩ : h.writes = false ∧ after.table = (h.alone file.table).table := by
          simpa [writesAfter] using hwrites
        rw [hsame, table_alone_of_not_writes hw]
        exact hkept

/-- The values that a connection finds. -/
def found (h : SharedHandle) (file : SharedFile) : Set Value :=
  tableValues (h.alone file.table).table

section Found

variable (h : SharedHandle) (job : Job) (file file' : SharedFile)

theorem found_of_outside {h : SharedHandle} (hstage : h.stage = .outside) :
    h.found file = tableValues file.table := by
  have hwrites : h.writes = false := by rw [writes, hstage]
  rw [found, table_alone_of_not_writes hwrites]

theorem found_subset : h.found file' ⊆ h.found file ∪ tableValues file'.table := by
  unfold found alone
  split
  · exact Set.subset_union_right
  · exact Set.subset_union_right
  · exact Set.subset_union_left

theorem exists_effect :
    ∃ after, Connection.Effect job (h.alone file.table) (h.perform job file).outcome after ∧
      ((h.perform job file).handle.stage = .outside ↔ after.isAutocommit) ∧
      (h.perform job file).file.table = after.kept ∧
      ((h.perform job file).handle.alone after.kept).table = after.table :=
  exists_effect_settle (Connection.effect job _)

theorem table_perform_of_inside (hinside : (h.perform job file).handle.stage ≠ .outside) :
    (h.perform job file).file.table = file.table := by
  obtain ⟨after, heffect, hstage, hfile, -⟩ := h.exists_effect job file
  have hafter : ¬ after.isAutocommit := fun houtside => hinside (hstage.mpr houtside)
  rw [hfile, heffect.kept_of_inside hafter, kept_alone]

theorem table_perform_subset :
    tableValues (h.perform job file).file.table ⊆
      h.found file ∪ tableValues file.table ∪ job.sentValues := by
  obtain ⟨after, heffect, -, hfile, -⟩ := h.exists_effect job file
  have hkept := heffect.kept_subset
  rwa [kept_alone, ← hfile] at hkept

theorem found_perform_subset :
    (h.perform job file).handle.found (h.perform job file).file ⊆
      h.found file ∪ tableValues (h.perform job file).file.table ∪ job.sentValues := by
  obtain ⟨after, heffect, -, hfile, htable⟩ := h.exists_effect job file
  have hfound := heffect.table_subset
  rwa [← htable, ← hfile] at hfound

theorem shown_subset {response : Response}
    (houtcome : (h.perform job file).outcome = .finished (.ok (some response))) :
    shownValues response ⊆ h.found file := by
  obtain ⟨after, heffect, -⟩ := h.exists_effect job file
  rw [houtcome] at heffect
  exact heffect.shown_subset

end Found

end SharedHandle

/-- The values that can be found in a shared file. -/
def View.shared (table : Option (List Stored)) : View (.shared table) where
  Row := Value
  holds file := tableValues (SharedFile.table file)
  keeps _ := ∅
  sees file h := SharedHandle.found h file
  writes := Job.sentValues
  shows := shownValues

theorem View.lawful_shared (table : Option (List Stored)) : (View.shared table).Lawful where
  connect _ handle _ h := by
    obtain rfl := Except.ok.inj (Prod.mk.inj h).1
    exact ⟨rfl, rfl⟩
  connect_quiet _ := .refl _
  close_quiet _ _ := ⟨subset_rfl, fun _ => Set.subset_union_left⟩
  outside file h houtside := by
    have hfound := SharedHandle.found_of_outside file (of_decide_eq_true houtside)
    exact hfound.subset.trans Set.subset_union_left
  inside job h file hinside := by
    have htable := SharedHandle.table_perform_of_inside h job file fun houtside =>
      hinside (decide_eq_true houtside)
    exact Set.union_subset_union_left _ (congrArg tableValues htable).subset
  commits job h file := by
    refine Set.union_subset ((SharedHandle.table_perform_subset h job file).trans ?_)
      (Set.empty_subset _)
    rintro v ((hfound | hheld) | hsent)
    · exact .inr (.inl hfound)
    · exact .inl (.inl hheld)
    · exact .inr (.inr hsent)
  finds job h file := by
    refine (SharedHandle.found_perform_subset h job file).trans ?_
    rintro v ((hfound | hheld) | hsent)
    · exact .inl (.inl (.inl hfound))
    · exact .inl (.inl (.inr hheld))
    · exact .inr hsent
  others job h file other := SharedHandle.found_subset other file _
  shows job h file response houtcome := by
    have hshown := SharedHandle.shown_subset h job file houtcome
    exact fun v hv => .inl (.inl (.inl (hshown hv)))

end PolySql.Sqlite

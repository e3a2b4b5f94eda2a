import PolySql.Dialect.Builtin
import PolySql.Proofs.Schema.Catalogue

/-!
# Repeating schema changes

On an engine that keeps a catalogue, the statements of a schema change do to the catalogue what
`Catalogue.run` says: they are made in order, a change that fails in a way its statement tolerates
is passed over, and any other failure ends the run (`Statement.exec_runTolerant_of_takes` for one
statement, `Compiled.describes_runFrom` for all of them).

So a table may be dropped again and again if it may be missing, and created again after it has been
dropped, whether or not its sequence is still there, while creating a table that exists and dropping
one that does not are failures that change nothing (`Client.run_schema_repeats`).
-/

namespace PolySql

variable {σ κ : Type}

/-! ### Statements as changes -/

/-- A schema statement, and the change that it stands for. -/
structure SchemaStep where
  statement : Statement
  change : CatalogueChange

/-- What becomes of a catalogue: the texts that were sent, the failure that ended them, with the
text that failed, and the catalogue at the end. -/
structure CatalogueRun where
  sent : List String
  failure : Option (String × CatalogueFailure)
  catalogue : Catalogue

/-- Whether the failure of a statement counts as success. -/
def Statement.toleratesFailure (d : Dialect) (s : Statement) (failure : CatalogueFailure) : Bool :=
  s.tolerates.any fun conflict => (d.conflictCodes conflict).contains failure.code

/-- The statement sends its text and nothing else. -/
structure Statement.Bare (s : Statement) : Prop where
  text : Text.isAllBlank s.sql = false
  bindings : s.bindings = []
  refetch : s.refetch = none

/-- A text is sent before everything else. -/
def CatalogueRun.after (sql : String) (r : CatalogueRun) : CatalogueRun :=
  { r with sent := sql :: r.sent }

/-- What becomes of a catalogue when statements are run. -/
def Catalogue.run (d : Dialect) (catalogue : Catalogue) : List SchemaStep → CatalogueRun
  | [] => { sent := [], failure := none, catalogue }
  | step :: steps =>
    match catalogue.apply step.change with
    | .ok changed => (run d changed steps).after step.statement.sql
    | .error failure =>
      if step.statement.toleratesFailure d failure then
        (run d catalogue steps).after step.statement.sql
      else
        { sent := [step.statement.sql], failure := some (step.statement.sql, failure), catalogue }

/-- A run that starts from a state sends the texts, leaves the catalogue and fails as described, or
succeeds with one of the given answers. -/
structure CatalogueRun.Describes {α : Type} (r : CatalogueRun) (catalogue : σ → Catalogue)
    (answers : α → Prop) (before : Watched σ κ) (result : Except Error α × Watched σ κ) :
    Prop where
  sent : result.2.executed = before.executed ++ r.sent.map (·, [])
  catalogue : catalogue result.2.backend = r.catalogue
  ends : match r.failure with
    | none => ∃ a, answers a ∧ result.1 = .ok a
    | some (sql, failure) =>
      ∃ report, failure.Reported report ∧ result.1 = .error (.statement sql report)

/-! ### Runs -/

/-- A failure is tolerated by its number, with or without a minus sign. -/
theorem Statement.toleratesError_eq_toleratesFailure (d : Dialect) (s : Statement)
    {failure : CatalogueFailure} {report : DriverError} (h : failure.Reported report)
    (sql : String) :
    s.toleratesError d (.statement sql report) = s.toleratesFailure d failure := by
  have habs : ∃ code, report.code = some code ∧ code.abs = failure.code := by
    rcases h with h | h
    · exact ⟨_, h, by cases failure <;> decide⟩
    · exact ⟨_, h, by cases failure <;> decide⟩
  obtain ⟨code, hcode, habs⟩ := habs
  simp only [toleratesError, toleratesFailure, Dialect.reports, hcode, habs]

section Run

variable {b : Backend σ κ} {catalogue : σ → Catalogue} {d : Dialect}

/-- One statement makes its change, or fails and changes nothing. -/
theorem Statement.exec_runTolerant_of_takes {s : Statement} (hs : s.Bare)
    {change : CatalogueChange} (h : b.Takes catalogue s.sql change) (c : κ) (w : Watched σ κ) :
    ∃ outcome after, (s.runTolerant b.watched c d).exec w = (outcome, after) ∧
      after.executed = w.executed ++ [(s.sql, [])] ∧
      match (catalogue w.backend).apply change with
      | .ok changed => catalogue after.backend = changed ∧ ∃ response, outcome = .ok response
      | .error failure => catalogue after.backend = catalogue w.backend ∧
        ∃ report, failure.Reported report ∧ outcome =
          if s.toleratesFailure d failure then .ok Response.empty
          else .error (.statement s.sql report) := by
  have hsent := h c w.backend
  have hencoded : d.encodeAll s.bindings = [] := by rw [hs.bindings]; rfl
  have hexecuted (answer : Except DriverError Response) {t : σ} :
      ({ backend := t, events := w.events ++ [(s.exchange d answer).event c] } :
        Watched σ κ).executed = w.executed ++ [(s.sql, [])] := by
    rw [Watched.executed_append w.backend, exchange, hencoded]
    rfl
  cases happly : (catalogue w.backend).apply change with
  | ok changed =>
    rw [happly] at hsent
    obtain ⟨response, t, hrun, ht⟩ := hsent
    have hanswers : b.Answers c w.backend [s.exchange d (.ok response)] t := by
      simpa [exchange, hencoded] using hrun
    have hexec := exec_run_of_ran (d := d) (.plain hs.text hs.refetch response) hanswers
    have htolerant : (s.runTolerant b.watched c d).exec w = (.ok response,
        { backend := t, events := w.events ++ [(s.exchange d (.ok response)).event c] }) := by
      rw [runTolerant, Action.exec_tryCatch, hexec]
      rfl
    exact ⟨_, _, htolerant, hexecuted _, ht, response, rfl⟩
  | error failure =>
    rw [happly] at hsent
    obtain ⟨report, t, hrun, hreport, ht⟩ := hsent
    have hanswers : b.Answers c w.backend [s.exchange d (.error report)] t := by
      simpa [exchange, hencoded] using hrun
    have hexec := exec_run_of_ran (d := d) (.failed hs.text report) hanswers
    have htolerant : (s.runTolerant b.watched c d).exec w =
        (if s.toleratesFailure d failure then .ok Response.empty
          else .error (.statement s.sql report),
        { backend := t, events := w.events ++ [(s.exchange d (.error report)).event c] }) := by
      rw [runTolerant, Action.exec_tryCatch, hexec]
      simp only [toleratesError_eq_toleratesFailure d s hreport]
      split <;> rfl
    exact ⟨_, _, htolerant, hexecuted _, ht, report, hreport, rfl⟩

/-- **Statements do what their changes do.** -/
theorem Compiled.describes_runFrom {steps : List SchemaStep}
    (h : ∀ step ∈ steps, step.statement.Bare ∧
      b.Takes catalogue step.statement.sql step.change) (c : κ) (last : Response)
    (w : Watched σ κ) :
    ((catalogue w.backend).run d steps).Describes catalogue (fun _ => True) w
      ((runFrom b.watched c d last (steps.map SchemaStep.statement)).exec w) := by
  induction steps generalizing last w with
  | nil => exact ⟨by simp [runFrom, Catalogue.run], rfl, last, trivial, rfl⟩
  | cons step steps ih =>
    obtain ⟨⟨hs, htakes⟩, hsteps⟩ := List.forall_mem_cons.mp h
    obtain ⟨outcome, after, hexec, hexecuted, hchange⟩ :=
      step.statement.exec_runTolerant_of_takes (d := d) hs htakes c w
    rw [List.map_cons, runFrom, Action.exec_bind, hexec, Catalogue.run]
    -- what follows a statement that has passed comes after it
    have hgoesOn (response : Response) :
        (((catalogue after.backend).run d steps).after step.statement.sql).Describes catalogue
          (fun _ => True) w
          ((runFrom b.watched c d response (steps.map SchemaStep.statement)).exec after) := by
      obtain ⟨hsent, hcatalogue, hends⟩ := ih hsteps response after
      refine ⟨?_, hcatalogue, hends⟩
      rw [hsent, hexecuted, List.append_assoc]
      rfl
    cases happly : (catalogue w.backend).apply step.change with
    | ok changed =>
      rw [happly] at hchange
      obtain ⟨rfl, response, rfl⟩ := hchange
      exact hgoesOn response
    | error failure =>
      rw [happly] at hchange
      obtain ⟨hsame, report, hreport, rfl⟩ := hchange
      rw [hsame] at hgoesOn
      by_cases htolerated : step.statement.toleratesFailure d failure = true
      · simp only [htolerated, if_true]
        exact hgoesOn Response.empty
      · simp only [htolerated]
        exact ⟨hexecuted, hsame, report, hreport, rfl⟩

/-- A schema request on a connection of its own does what the changes of its statements do. -/
theorem Client.describes_run {client : Client σ κ} {known : String → String} {v : Writer}
    {table : String} (hkeeps : client.backend.KeepsCatalogue catalogue known v table)
    {change : SchemaChange} {compiled : Compiled} {steps : List SchemaStep}
    (hcompile : client.profile.compile (.schema change) = .ok compiled)
    (hstatements : compiled.statements = steps.map SchemaStep.statement)
    (houtput : ∀ response, client.profile.output (.schema change) compiled response = .ok .unit)
    (hsteps : ∀ step ∈ steps, step.statement.Bare ∧
      client.backend.Takes catalogue step.statement.sql step.change) (before : Watched σ κ) :
    ((catalogue before.backend).run client.profile.dialect steps).Describes catalogue (· = .unit)
      before ((client.watched.run (.schema change)).exec before) := by
  obtain ⟨c, t, hacquire, ht⟩ := hkeeps.acquire before.backend
  let held : Watched σ κ := { backend := t, events := before.events ++ [.acquired c] }
  have hexecuted : held.executed = before.executed := by
    rw [Watched.executed_append before.backend]
    exact List.append_nil _
  have hdescribes :=
    Compiled.describes_runFrom (d := client.profile.dialect) hsteps c Response.empty held
  have hrunOn := exec_runOn_of_compiled client.backend.watched hcompile c held
  rw [Compiled.run, hstatements] at hrunOn
  rcases hexec : (Compiled.runFrom client.backend.watched c client.profile.dialect Response.empty
    (steps.map SchemaStep.statement)).exec held with ⟨outcome, after⟩
  rw [hexec] at hdescribes hrunOn
  obtain ⟨hsent, hcatalogue, hends⟩ := hdescribes
  have hrun : (client.watched.run (.schema change)).exec before =
      (outcome >>= client.profile.output (.schema change) compiled,
        { backend := ((client.backend.release c).run after.backend).2
          events := after.events ++ [.released c] }) := by
    have hcompiles : client.watched.profile.compile (.schema change) = .ok compiled := hcompile
    rw [exec_run, hcompiles]
    simp only [watched, Backend.run_watched_acquire, hacquire, Event.ofAcquire_ok] at hrunOn ⊢
    rw [hrunOn]
    simp
  rw [hrun]
  refine ⟨?_, ?_, ?_⟩
  · rw [Watched.executed_append after.backend, ← ht, ← hexecuted, ← hsent]
    exact List.append_nil _
  · rw [hkeeps.release, hcatalogue, ht]
  · rw [ht] at hends
    split at hends
    · obtain ⟨response, -, rfl⟩ := hends
      exact ⟨.unit, rfl, houtput response⟩
    · obtain ⟨report, hreport, rfl⟩ := hends
      exact ⟨report, hreport, rfl⟩

end Run

/-! ### Creating and dropping a table -/

theorem Catalogue.run_of_failure {d : Dialect} {catalogue : Catalogue} {step : SchemaStep}
    {failure : CatalogueFailure} (happly : catalogue.apply step.change = .error failure)
    (htolerates : step.statement.tolerates = none) (steps : List SchemaStep) :
    catalogue.run d (step :: steps) =
      { sent := [step.statement.sql], failure := some (step.statement.sql, failure), catalogue } := by
  rw [run, happly]
  simp [Statement.toleratesFailure, htolerates]

namespace SchemaChange

section Steps

variable (known : String → String) (w : Writer) (table : String)

/-- The engine's name for a table. -/
def knownTable : String :=
  known (w.identifier table)

/-- The engine's name for the sequence of a table. -/
def knownSequence : String :=
  known (w.identifier (sequenceName table))

/-- The step that creates a table. -/
def createStep (columns : List ColumnDef) : SchemaStep where
  statement := createStatement w table columns
  change := .createTable (knownTable known w table)

/-- The steps that create a table whose key fills itself. -/
def keyedSteps (columns : List ColumnDef) (key : String) : List SchemaStep :=
  List.zipWith SchemaStep.mk (keyedStatements w table columns key)
    [.createTable (knownTable known w table), .createSequence (knownSequence known w table),
      .createTrigger (knownTable known w table)]

theorem keyedSteps_eq (columns : List ColumnDef) (key : String) :
    keyedSteps known w table columns key =
      createStep known w table columns :: (keyedSteps known w table columns key).tail := rfl

/-- The steps that drop a table and its sequence. -/
def dropSteps (ifExists : Bool) : List SchemaStep :=
  List.zipWith SchemaStep.mk (dropStatements w table ifExists)
    [.dropTable (knownTable known w table), .dropSequence (knownSequence known w table)]

variable {known w table}

section Taken

variable {b : Backend σ κ} {catalogue : σ → Catalogue}

theorem createStep_taken (h : b.KeepsCatalogue catalogue known w table)
    (columns : List ColumnDef) :
    (createStep known w table columns).statement.Bare ∧
      b.Takes catalogue (createStep known w table columns).statement.sql
        (createStep known w table columns).change :=
  ⟨⟨isAllBlank_createTableText _ _, rfl, rfl⟩, h.createTable _⟩

theorem keyedSteps_taken (h : b.KeepsCatalogue catalogue known w table)
    (columns : List ColumnDef) (key : String) :
    ∀ step ∈ keyedSteps known w table columns key,
      step.statement.Bare ∧ b.Takes catalogue step.statement.sql step.change := by
  simp only [keyedSteps, keyedStatements, List.zipWith_cons_cons, List.zipWith_nil_left,
    List.forall_mem_cons, List.not_mem_nil, false_imp_iff, implies_true, and_true]
  exact ⟨createStep_taken h columns,
    ⟨⟨isAllBlank_createSequenceText _, rfl, rfl⟩, h.createSequence⟩,
    ⟨isAllBlank_createTriggerText _ _ _ _, rfl, rfl⟩, h.createTrigger key⟩

theorem dropSteps_taken (h : b.KeepsCatalogue catalogue known w table) (ifExists : Bool) :
    ∀ step ∈ dropSteps known w table ifExists,
      step.statement.Bare ∧ b.Takes catalogue step.statement.sql step.change := by
  simp only [dropSteps, dropStatements, List.zipWith_cons_cons, List.zipWith_nil_left,
    List.forall_mem_cons, List.not_mem_nil, false_imp_iff, implies_true, and_true]
  exact ⟨⟨⟨isAllBlank_dropTableText _, rfl, rfl⟩, h.dropTable⟩,
    ⟨isAllBlank_dropSequenceText _, rfl, rfl⟩, h.dropSequence⟩

end Taken

variable {catalogue : Catalogue}

/-- Creating a table without a sequence. -/
theorem run_createStep (h : knownTable known w table ∉ catalogue.tables) (d : Dialect)
    (columns : List ColumnDef) :
    catalogue.run d [createStep known w table columns] =
      { sent := [createTableText (w.identifier table) (columnsText w columns)]
        failure := none
        catalogue :=
          { catalogue with tables := insert (knownTable known w table) catalogue.tables } } := by
  have happly : catalogue.apply (createStep known w table columns).change =
      .ok { catalogue with tables := insert (knownTable known w table) catalogue.tables } :=
    if_neg h
  rw [Catalogue.run, happly]
  rfl

/-- Creating a table that is there fails on its first statement, whatever is to follow. -/
theorem run_createStep_of_mem (h : knownTable known w table ∈ catalogue.tables) (d : Dialect)
    (columns : List ColumnDef) (steps : List SchemaStep) :
    catalogue.run d (createStep known w table columns :: steps) =
      { sent := [createTableText (w.identifier table) (columnsText w columns)]
        failure := some (createTableText (w.identifier table) (columnsText w columns), .nameInUse)
        catalogue } := by
  have happly : catalogue.apply (createStep known w table columns).change = .error .nameInUse :=
    if_pos h
  exact Catalogue.run_of_failure happly rfl steps

/-- Dropping a table that is not there fails on its first statement. -/
theorem run_dropSteps_of_notMem (h : knownTable known w table ∉ catalogue.tables) (d : Dialect) :
    catalogue.run d (dropSteps known w table false) =
      { sent := [dropTableText (w.identifier table)]
        failure := some (dropTableText (w.identifier table), .tableMissing)
        catalogue } := by
  have happly : catalogue.apply (.dropTable (knownTable known w table)) = .error .tableMissing :=
    if_neg h
  rw [dropSteps, dropStatements, List.zipWith_cons_cons]
  exact Catalogue.run_of_failure happly rfl _

/-- Creating a table with its sequence, whether or not the sequence is there. -/
theorem run_keyedSteps (h : knownTable known w table ∉ catalogue.tables)
    (columns : List ColumnDef) (key : String) :
    catalogue.run .oracle (keyedSteps known w table columns key) =
      { sent := (keyedStatements w table columns key).map Statement.sql
        failure := none
        catalogue :=
          { tables := insert (knownTable known w table) catalogue.tables
            sequences := insert (knownSequence known w table) catalogue.sequences } } := by
  have htolerates : CatalogueFailure.code .nameInUse ∈
      Dialect.oracle.conflictCodes .alreadyExists := by decide
  by_cases hsequence : knownSequence known w table ∈ catalogue.sequences <;>
    simp [keyedSteps, keyedStatements, createStatement, Catalogue.run, Catalogue.apply, h,
      hsequence, CatalogueRun.after, Statement.toleratesFailure, htolerates]

/-- Dropping a table with its sequence, whether or not they are there. -/
theorem run_dropSteps_ifExists (catalogue : Catalogue) :
    catalogue.run .oracle (dropSteps known w table true) =
      { sent := (dropStatements w table true).map Statement.sql
        failure := none
        catalogue :=
          { tables := catalogue.tables.erase (knownTable known w table)
            sequences := catalogue.sequences.erase (knownSequence known w table) } } := by
  have htable : CatalogueFailure.code .tableMissing ∈
      Dialect.oracle.conflictCodes .alreadyAbsent := by decide
  have hsequence : CatalogueFailure.code .sequenceMissing ∈
      Dialect.oracle.conflictCodes .alreadyAbsent := by decide
  by_cases hknown : knownTable known w table ∈ catalogue.tables <;>
    by_cases hknownSequence : knownSequence known w table ∈ catalogue.sequences <;>
      simp [dropSteps, dropStatements, Catalogue.run, Catalogue.apply, hknown, hknownSequence,
        CatalogueRun.after, Statement.toleratesFailure, htable, hsequence]

end Steps

/-- The sequence of a table has the table's owner: the suffix is put to the last segment. -/
theorem exists_segments_sequenceName (table : String) :
    ∃ owner last, Dialect.segments table = owner ++ [last] ∧
      Dialect.segments (sequenceName table) = owner ++ [last ++ "_seq".toList] := by
  have hsuffix : ∀ c ∈ "_seq".toList, (c == '.') = false := by simp
  obtain ⟨owner, last, htable, hsequence⟩ := Text.exists_fields_append hsuffix table.toList
  refine ⟨owner, last, htable, ?_⟩
  rw [Dialect.segments, sequenceName, String.toList_append, hsequence]

end SchemaChange

/-! ### Requests -/

/-- How a schema change is written for a client, where the change may have a setting of its own. -/
def Profile.writer (p : Profile) (override : Option Bool) : Writer where
  dialect := p.dialect
  quoting := override.getD p.quoting

open SchemaChange

section Requests

variable {client : Client σ κ} {catalogue : σ → Catalogue} {known : String → String}
  {table : String} {override : Option Bool}

namespace Client

variable (hdialect : client.profile.dialect = .oracle) (htable : Text.isAllBlank table = false)
  (hkeeps : client.backend.KeepsCatalogue catalogue known (client.profile.writer override) table)
  (before : Watched σ κ)

include hdialect htable hkeeps

theorem describes_run_dropTable (ifExists : Bool) :
    ((catalogue before.backend).run .oracle
      (dropSteps known (client.profile.writer override) table ifExists)).Describes catalogue
        (· = .unit) before
        ((client.watched.run (.schema (.dropTable table ifExists override))).exec before) := by
  have hcompile : client.profile.compile (.schema (.dropTable table ifExists override)) =
      .ok (.sequence (dropStatements (client.profile.writer override) table ifExists)) := by
    have hdrop := compileDrop_eq (w := client.profile.writer override)
      (by rw [Profile.writer, hdialect]; rfl) (by rw [Profile.writer, hdialect]; rfl) htable ifExists
    exact congrArg (Except.mapError CompileError.toError) hdrop
  rw [← hdialect]
  exact describes_run hkeeps hcompile rfl (fun _ => rfl) (dropSteps_taken hkeeps ifExists) before

theorem describes_run_createTable_of_key {columns : List ColumnDef} {key : ColumnDef}
    (hkey : columns.find? (·.type.isAutoIncrement) = some key) :
    ((catalogue before.backend).run .oracle
      (keyedSteps known (client.profile.writer override) table columns key.name)).Describes
        catalogue (· = .unit) before
        ((client.watched.run (.schema (.createTable table columns override))).exec before) := by
  have hcompile : client.profile.compile (.schema (.createTable table columns override)) =
      .ok (.sequence
        (keyedStatements (client.profile.writer override) table columns key.name)) := by
    have hcreate := compileCreate_of_key (w := client.profile.writer override)
      (by rw [Profile.writer, hdialect]; rfl) htable hkey
    exact congrArg (Except.mapError CompileError.toError) hcreate
  rw [← hdialect]
  exact describes_run hkeeps hcompile rfl (fun _ => rfl) (keyedSteps_taken hkeeps columns key.name)
    before

theorem describes_run_createTable_of_no_key {columns : List ColumnDef} (hcolumns : columns ≠ [])
    (hkey : columns.find? (·.type.isAutoIncrement) = none) :
    ((catalogue before.backend).run .oracle
      [createStep known (client.profile.writer override) table columns]).Describes
        catalogue (· = .unit) before
        ((client.watched.run (.schema (.createTable table columns override))).exec before) := by
  have hcompile : client.profile.compile (.schema (.createTable table columns override)) =
      .ok (.single (createStatement (client.profile.writer override) table columns)) := by
    have hcreate := compileCreate_of_no_key (w := client.profile.writer override)
      htable hcolumns hkey
    exact congrArg (Except.mapError CompileError.toError) hcreate
  rw [← hdialect]
  refine describes_run hkeeps hcompile rfl (fun _ => rfl) ?_ before
  simpa using createStep_taken hkeeps columns

end Client

/-- **Repeating schema changes.**  On an engine that keeps a catalogue, with identifiers quoted or
not, a table may be dropped if it is there, any number of times: the table and its sequence are
gone afterwards, and nothing else has changed.  A table that is not there can be created, whether or
not its sequence is there, by one statement, or by three if its key fills itself.  Creating a table
that is there and dropping one that is not fail on their first statement and change nothing.  The
sequence belongs to the owner of its table. -/
theorem Client.run_schema_repeats {columns : List ColumnDef}
    (hdialect : client.profile.dialect = .oracle) (htable : Text.isAllBlank table = false)
    (hcolumns : columns ≠ [])
    (hkeeps : client.backend.KeepsCatalogue catalogue known (client.profile.writer override) table)
    (before : Watched σ κ) :
    let w := client.profile.writer override
    let name := w.identifier table
    let sequence := w.identifier (sequenceName table)
    let start := catalogue before.backend
    let createText := createTableText name (columnsText w columns)
    let run (change : SchemaChange) (state : Watched σ κ) :=
      (client.watched.run (.schema change)).exec state
    let create := run (.createTable table columns override) before
    let drop := run (.dropTable table false override) before
    let dropIfExists := run (.dropTable table true override) before
    let dropped : CatalogueRun :=
      { sent := [dropTableText name, dropSequenceText sequence]
        failure := none
        catalogue :=
          { tables := start.tables.erase (known name)
            sequences := start.sequences.erase (known sequence) } }
    (dropped.Describes catalogue (· = .unit) before dropIfExists ∧
      dropped.Describes catalogue (· = .unit) dropIfExists.2
        (run (.dropTable table true override) dropIfExists.2)) ∧
    (known name ∉ start.tables → ∀ key, columns.find? (·.type.isAutoIncrement) = some key →
      CatalogueRun.Describes
        { sent := [createText, createSequenceText sequence,
            createTriggerText (w.identifier (triggerName table key.name)) name
              (w.identifier key.name) sequence]
          failure := none
          catalogue :=
            { tables := insert (known name) start.tables
              sequences := insert (known sequence) start.sequences } }
        catalogue (· = .unit) before create) ∧
    (known name ∉ start.tables → columns.find? (·.type.isAutoIncrement) = none →
      CatalogueRun.Describes
        { sent := [createText]
          failure := none
          catalogue := { start with tables := insert (known name) start.tables } }
        catalogue (· = .unit) before create) ∧
    (known name ∈ start.tables →
      CatalogueRun.Describes
        { sent := [createText], failure := some (createText, .nameInUse), catalogue := start }
        catalogue (· = .unit) before create) ∧
    (known name ∉ start.tables →
      CatalogueRun.Describes
        { sent := [dropTableText name]
          failure := some (dropTableText name, .tableMissing)
          catalogue := start }
        catalogue (· = .unit) before drop) ∧
    ∃ owner last, Dialect.segments table = owner ++ [last] ∧
      Dialect.segments (sequenceName table) = owner ++ [last ++ "_seq".toList] := by
  intro w name sequence start createText run create drop dropIfExists dropped
  have hdropped (state : Watched σ κ) :=
    describes_run_dropTable hdialect htable hkeeps state true
  have hcreated (key : ColumnDef) (hkey : columns.find? (·.type.isAutoIncrement) = some key) :=
    describes_run_createTable_of_key hdialect htable hkeeps before hkey
  have hplain := describes_run_createTable_of_no_key hdialect htable hkeeps before hcolumns
  refine ⟨?_, ?_, ?_, ?_, ?_, exists_segments_sequenceName table⟩
  · simp only [run_dropSteps_ifExists] at hdropped
    have hfirst : dropped.Describes catalogue (· = .unit) before dropIfExists := hdropped before
    have hagain := hdropped dropIfExists.2
    rw [hfirst.catalogue] at hagain
    -- what is gone cannot be erased once more
    have htables : dropped.catalogue.tables.erase (known name) = dropped.catalogue.tables :=
      Finset.erase_idem
    have hsequences : dropped.catalogue.sequences.erase (known sequence) =
        dropped.catalogue.sequences := Finset.erase_idem
    rw [knownTable, knownSequence, htables, hsequences] at hagain
    exact ⟨hfirst, hagain⟩
  · intro habsent key hkey
    have hcreate := hcreated key hkey
    rwa [run_keyedSteps habsent] at hcreate
  · intro habsent hkey
    have hcreate := hplain hkey
    rwa [run_createStep habsent] at hcreate
  · intro hmem
    cases hkey : columns.find? (·.type.isAutoIncrement) with
    | none =>
      have hcreate := hplain hkey
      rwa [run_createStep_of_mem hmem] at hcreate
    | some key =>
      have hcreate := hcreated key hkey
      rwa [keyedSteps_eq, run_createStep_of_mem hmem] at hcreate
  · intro habsent
    have hdrop := describes_run_dropTable hdialect htable hkeeps before false
    rwa [run_dropSteps_of_notMem habsent] at hdrop

end Requests

/-- A client of an engine that keeps a catalogue. -/
def Catalogue.client : Client Catalogue Unit where
  profile := { dialect := .oracle }
  backend := script.backend

/-- The key of a table of items. -/
def itemKey : ColumnDef where
  name := "id"
  type := .increments

/-- A sequence is left over from a table of items that is gone.  Dropping the table if it exists
removes the sequence, and creating the table puts up with it. -/
theorem Client.run_schema_repeats_leftSequence :
    let client := Catalogue.client
    let run (change : SchemaChange) := (client.watched.run (.schema change)).exec
    let name := "\"stock\".\"items\""
    let sequence := "\"stock\".\"items_seq\""
    let left : Watched Catalogue Unit := { backend := { tables := ∅, sequences := {sequence} } }
    (client.profile.dialect = .oracle ∧ Text.isAllBlank "stock.items" = false ∧
      [itemKey] ≠ [] ∧
      client.backend.KeepsCatalogue id id (client.profile.writer none) "stock.items") ∧
    CatalogueRun.Describes
      { sent := [dropTableText name, dropSequenceText sequence]
        failure := none
        catalogue := { tables := ∅, sequences := ∅ } }
      id (· = .unit) left (run (.dropTable "stock.items" true none) left) ∧
    CatalogueRun.Describes
      { sent := [createTableText name "\"id\" integer not null primary key",
          createSequenceText sequence,
          createTriggerText "\"stock\".\"items_id_trg\"" name "\"id\"" sequence]
        failure := none
        catalogue := { tables := {name}, sequences := {sequence} } }
      id (· = .unit) left (run (.createTable "stock.items" [itemKey] none) left) := by
  intro client run name sequence left
  have hkeeps : client.backend.KeepsCatalogue id id (client.profile.writer none) "stock.items" :=
    Catalogue.keepsCatalogue_script "stock.items"
  have hcolumns : [itemKey] ≠ [] := List.cons_ne_nil _ _
  have hname : (client.profile.writer none).identifier "stock.items" = name := by decide
  have hsequence : (client.profile.writer none).identifier (sequenceName "stock.items") =
      sequence := by decide
  have hkey : (client.profile.writer none).identifier itemKey.name = "\"id\"" := by decide
  have htrigger : (client.profile.writer none).identifier
      (triggerName "stock.items" itemKey.name) = "\"stock\".\"items_id_trg\"" := by decide
  have hcolumn : columnsText (client.profile.writer none) [itemKey] =
      "\"id\" integer not null primary key" := by decide
  obtain ⟨⟨hdrop, -⟩, hcreate, -⟩ :=
    Client.run_schema_repeats rfl (by decide) hcolumns hkeeps left
  have hcreated := hcreate (Finset.notMem_empty _) itemKey rfl
  simp only [id, hname, hsequence, hkey, htrigger, hcolumn] at hdrop hcreated
  refine ⟨⟨rfl, by decide, hcolumns, hkeeps⟩, ?_, ?_⟩
  · rwa [Finset.erase_empty, Finset.erase_singleton] at hdrop
  · rwa [Finset.insert_eq_of_mem (Finset.mem_singleton_self _)] at hcreated

end PolySql

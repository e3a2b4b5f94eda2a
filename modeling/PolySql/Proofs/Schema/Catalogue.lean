import Mathlib.Data.Finset.Basic
import PolySql.Proofs.Client.Script
import PolySql.Proofs.Identifier
import PolySql.Proofs.Reading.Paging
import PolySql.Proofs.Schema.Statements

/-!
# Engines that keep a catalogue

An engine with sequences and triggers keeps a `Catalogue`, the names of its tables and those of its
sequences.  A schema statement is a change of the catalogue, or fails: what is there cannot be
created (955), and what is missing cannot be dropped (942 for a table, 2289 for a sequence).

`Backend.KeepsCatalogue` says that a backend behaves like this for the statements about one table.
It is no empty condition: `Catalogue.script` reads schema statements from their texts, and keeps a
catalogue for every table whose name is quoted.
-/

namespace PolySql

variable {σ κ : Type}

/-! ### Catalogues -/

/-- The tables and the sequences that an engine knows, by its own names for them. -/
structure Catalogue where
  tables : Finset String
  sequences : Finset String
  deriving DecidableEq

/-- What a schema statement means for a catalogue. -/
inductive CatalogueChange where
  | createTable (table : String)
  | createSequence (sequence : String)
  /-- A trigger is created, or takes the place of another one. -/
  | createTrigger (table : String)
  | dropTable (table : String)
  | dropSequence (sequence : String)

/-- Why a catalogue cannot be changed. -/
inductive CatalogueFailure where
  | nameInUse
  | tableMissing
  | sequenceMissing

namespace CatalogueFailure

/-- The number that a failure is known by. -/
def code : CatalogueFailure → Int32
  | .nameInUse => 955
  | .tableMissing => 942
  | .sequenceMissing => 2289

/-- The report of a failure has its number, with or without a minus sign. -/
def Reported (failure : CatalogueFailure) (report : DriverError) : Prop :=
  report.code = some failure.code ∨ report.code = some (-failure.code)

end CatalogueFailure

namespace Catalogue

/-- A catalogue after a change. -/
def apply (catalogue : Catalogue) : CatalogueChange → Except CatalogueFailure Catalogue
  | .createTable table =>
    if table ∈ catalogue.tables then .error .nameInUse
    else .ok { catalogue with tables := insert table catalogue.tables }
  | .createSequence sequence =>
    if sequence ∈ catalogue.sequences then .error .nameInUse
    else .ok { catalogue with sequences := insert sequence catalogue.sequences }
  | .createTrigger table =>
    if table ∈ catalogue.tables then .ok catalogue else .error .tableMissing
  | .dropTable table =>
    if table ∈ catalogue.tables then .ok { catalogue with tables := catalogue.tables.erase table }
    else .error .tableMissing
  | .dropSequence sequence =>
    if sequence ∈ catalogue.sequences then
      .ok { catalogue with sequences := catalogue.sequences.erase sequence }
    else .error .sequenceMissing

end Catalogue

namespace Backend

/-- A backend takes a text as a change of its catalogue: it makes the change, or reports why it
cannot be made and changes nothing. -/
def Takes (b : Backend σ κ) (catalogue : σ → Catalogue) (sql : String) (change : CatalogueChange) :
    Prop :=
  ∀ c s, match (catalogue s).apply change with
    | .ok changed => ∃ response t, (b.execute c sql []).run s = (.ok response, t) ∧
        catalogue t = changed
    | .error failure => ∃ report t, (b.execute c sql []).run s = (.error report, t) ∧
        failure.Reported report ∧ catalogue t = catalogue s

open SchemaChange in
/-- A backend keeps a catalogue in its state, which the statements about a table change, and which
is the same on all connections.  The engine knows objects by names of its own, `known` being the one
that it reads from a written name. -/
structure KeepsCatalogue (b : Backend σ κ) (catalogue : σ → Catalogue) (known : String → String)
    (w : Writer) (table : String) : Prop where
  acquire : ∀ s, ∃ c t, b.acquire.run s = (.ok c, t) ∧ catalogue t = catalogue s
  release : ∀ c s, catalogue ((b.release c).run s).2 = catalogue s
  createTable : ∀ columns, b.Takes catalogue (createTableText (w.identifier table) columns)
    (.createTable (known (w.identifier table)))
  createSequence : b.Takes catalogue (createSequenceText (w.identifier (sequenceName table)))
    (.createSequence (known (w.identifier (sequenceName table))))
  createTrigger : ∀ key, b.Takes catalogue
    (createTriggerText (w.identifier (triggerName table key)) (w.identifier table)
      (w.identifier key) (w.identifier (sequenceName table)))
    (.createTrigger (known (w.identifier table)))
  dropTable : b.Takes catalogue (dropTableText (w.identifier table))
    (.dropTable (known (w.identifier table)))
  dropSequence : b.Takes catalogue (dropSequenceText (w.identifier (sequenceName table)))
    (.dropSequence (known (w.identifier (sequenceName table))))

end Backend

/-! ### An engine that reads its statements -/

/-- The name at the start of a text as it is written, and the rest of the text.  A name ends at the
first blank outside of quotes. -/
def splitName (quoted : Bool) : List Char → List Char × List Char
  | [] => ([], [])
  | c :: cs =>
    if c = ' ' ∧ quoted = false then ([], c :: cs)
    else
      let (name, rest) := splitName (quoted ^^ (c = '"')) cs
      (c :: name, rest)

namespace CatalogueChange

/-- The name after a part of a text. -/
def readName (part : String) (text : List Char) : Option String :=
  (afterPart part text).map fun rest => String.ofList (splitName false rest).1

/-- The table of a trigger, which stands after the trigger's own name. -/
def readTriggerTable (text : List Char) : Option String := do
  let rest ← afterPart "create or replace trigger " text
  readName " before insert on " (splitName false rest).2

/-- The change that a text stands for. -/
def read (text : List Char) : Option CatalogueChange :=
  (readName "create table " text).map .createTable <|>
    (readName "create sequence " text).map .createSequence <|>
    (readTriggerTable text).map .createTrigger <|>
    (readName "drop table " text).map .dropTable <|>
    (readName "drop sequence " text).map .dropSequence

end CatalogueChange

namespace Catalogue

/-- The engine: it knows objects by their names as they are written, and reports its failures with a
minus sign. -/
def script : Script Catalogue := fun sql _ catalogue =>
  match CatalogueChange.read sql.toList with
  | none => (.error { message := "invalid SQL statement" }, catalogue)
  | some change =>
    match catalogue.apply change with
    | .ok changed => (.ok Response.empty, changed)
    | .error failure =>
      (.error { code := some (-failure.code), message := "catalogue conflict" }, catalogue)

/-- The engine takes a text as the change that it reads from it. -/
theorem takes_of_read {sql : String} {change : CatalogueChange}
    (h : CatalogueChange.read sql.toList = some change) :
    script.backend.Takes id sql change := by
  intro c s
  have hrun : (script.backend.execute c sql []).run s =
      match s.apply change with
      | .ok changed => (.ok Response.empty, changed)
      | .error failure =>
        (.error { code := some (-failure.code), message := "catalogue conflict" }, s) := by
    change script sql [] s = _
    rw [script, h]
  rw [hrun]
  simp only [id]
  cases s.apply change with
  | ok changed => exact ⟨_, _, rfl, rfl⟩
  | error failure => exact ⟨_, _, rfl, .inr rfl, rfl⟩

end Catalogue

/-! ### Quoted names -/

/-- A name is not split, whatever stands after it. -/
def Unsplit (name : List Char) : Prop :=
  ∀ rest, splitName false (name ++ rest) =
    (name ++ (splitName false rest).1, (splitName false rest).2)

theorem unsplit_nil : Unsplit [] := fun _ => rfl

theorem Unsplit.append {name other : List Char} (hname : Unsplit name) (hother : Unsplit other) :
    Unsplit (name ++ other) := by
  intro rest
  rw [List.append_assoc, hname, hother, List.append_assoc]

theorem Unsplit.cons {c : Char} {name : List Char} (hblank : c ≠ ' ') (hquote : c ≠ '"')
    (h : Unsplit name) : Unsplit (c :: name) := by
  intro rest
  rw [List.cons_append, splitName, if_neg (by simp [hblank])]
  simp [hquote, h rest]

theorem Unsplit.intercalate {parts : List (List Char)} (h : ∀ part ∈ parts, Unsplit part) :
    Unsplit (List.intercalate ['.'] parts) := by
  induction parts with
  | nil => exact unsplit_nil
  | cons part parts ih =>
    obtain ⟨hpart, hparts⟩ := List.forall_mem_cons.mp h
    cases parts with
    | nil => simpa using hpart
    | cons next parts =>
      rw [List.intercalate_cons_cons]
      exact (hpart.append (unsplit_nil.cons (by decide) (by decide))).append (ih hparts)

/-- Inside quotes everything is read up to the closing quote, a doubled quote being read as the end
of the name and a new beginning. -/
theorem splitName_doubled (segment rest : List Char) :
    splitName true (Dialect.oracle.doubled segment ++ '"' :: rest) =
      (Dialect.oracle.doubled segment ++ '"' :: (splitName false rest).1,
        (splitName false rest).2) := by
  induction segment with
  | nil => rfl
  | cons c cs ih =>
    rw [Dialect.doubled_cons]
    split
    · rename_i hquote
      obtain rfl : c = '"' := hquote
      simp [splitName, ih]
    · rename_i hquote
      have hc : c ≠ '"' := hquote
      simp [splitName, hc, ih]

theorem unsplit_quoteSegment (segment : List Char) :
    Unsplit (Dialect.oracle.quoteSegment segment) := by
  unfold Dialect.quoteSegment
  split
  · rename_i hstar
    rw [hstar]
    exact unsplit_nil.cons (by decide) (by decide)
  · intro rest
    have hquoted := splitName_doubled segment rest
    have hopen : Dialect.oracle.openQuote = '"' := rfl
    have hclose : Dialect.oracle.closeQuote = '"' := rfl
    rw [hopen, hclose, List.cons_append, List.cons_append, List.append_assoc, List.singleton_append,
      splitName, if_neg (by simp)]
    simp [hquoted]

/-- A quoted name is not split. -/
theorem unsplit_identifier (name : String) :
    Unsplit (Writer.identifier { dialect := .oracle, quoting := true } name).toList := by
  rw [Writer.identifier, if_pos rfl, Dialect.quote, String.toList_ofList]
  refine Unsplit.intercalate fun part hpart => ?_
  obtain ⟨segment, -, rfl⟩ := List.mem_map.mp hpart
  exact unsplit_quoteSegment segment

/-! ### Reading statements -/

theorem Unsplit.splitName_eq {name rest : List Char} (h : Unsplit name)
    (hrest : rest.head?.all (· == ' ')) : splitName false (name ++ rest) = (name, rest) := by
  have hends : splitName false rest = ([], rest) := by
    cases rest with
    | nil => rfl
    | cons c cs => rw [splitName, if_pos (by simpa using hrest)]
  rw [h, hends, List.append_nil]

namespace CatalogueChange

theorem readName_append {part : String} {name rest : List Char} (hname : Unsplit name)
    (hrest : rest.head?.all (· == ' ')) :
    readName part (part.toList ++ (name ++ rest)) = some (String.ofList name) := by
  rw [readName, afterPart_append, Option.map_some, hname.splitName_eq hrest]

theorem readName_eq_none {part other : String} (hpart : ¬ part.toList <+: other.toList)
    (hother : ¬ other.toList <+: part.toList) (text : List Char) :
    readName part (other.toList ++ text) = none := by
  rw [readName, afterPart_eq_none hpart hother, Option.map_none]

theorem readTriggerTable_append {trigger table rest : List Char} (htrigger : Unsplit trigger)
    (htable : Unsplit table) (hrest : rest.head?.all (· == ' ')) :
    readTriggerTable ("create or replace trigger ".toList ++
      (trigger ++ (" before insert on ".toList ++ (table ++ rest)))) =
        some (String.ofList table) := by
  rw [readTriggerTable, afterPart_append]
  simp only [Option.bind_eq_bind, Option.bind_some]
  rw [htrigger.splitName_eq (by rfl), readName_append htable hrest]

theorem readTriggerTable_eq_none {other : String}
    (hpart : ¬ "create or replace trigger ".toList <+: other.toList)
    (hother : ¬ other.toList <+: "create or replace trigger ".toList) (text : List Char) :
    readTriggerTable (other.toList ++ text) = none := by
  rw [readTriggerTable, afterPart_eq_none hpart hother]
  rfl

open SchemaChange

variable {name : String}

theorem read_createTableText (hname : Unsplit name.toList) (columns : String) :
    read (createTableText name columns).toList = some (.createTable name) := by
  unfold createTableText
  simp only [String.toList_append, List.append_assoc]
  rw [read, readName_append hname rfl, String.ofList_toList]
  rfl

theorem read_createSequenceText (hname : Unsplit name.toList) :
    read (createSequenceText name).toList = some (.createSequence name) := by
  unfold createSequenceText
  rw [String.toList_append, ← List.append_nil name.toList, read,
    readName_eq_none (by decide) (by decide), readName_append hname rfl, String.ofList_toList]
  rfl

theorem read_createTriggerText {trigger : String} (htrigger : Unsplit trigger.toList)
    (hname : Unsplit name.toList) (key sequence : String) :
    read (createTriggerText trigger name key sequence).toList = some (.createTrigger name) := by
  unfold createTriggerText
  simp only [String.toList_append, List.append_assoc]
  rw [read, readName_eq_none (by decide) (by decide), readName_eq_none (by decide) (by decide),
    readTriggerTable_append htrigger hname rfl, String.ofList_toList]
  rfl

theorem read_dropTableText (hname : Unsplit name.toList) :
    read (dropTableText name).toList = some (.dropTable name) := by
  unfold dropTableText
  rw [String.toList_append, ← List.append_nil name.toList, read,
    readName_eq_none (by decide) (by decide), readName_eq_none (by decide) (by decide),
    readTriggerTable_eq_none (by decide) (by decide), readName_append hname rfl,
    String.ofList_toList]
  rfl

theorem read_dropSequenceText (hname : Unsplit name.toList) :
    read (dropSequenceText name).toList = some (.dropSequence name) := by
  unfold dropSequenceText
  rw [String.toList_append, ← List.append_nil name.toList, read,
    readName_eq_none (by decide) (by decide), readName_eq_none (by decide) (by decide),
    readTriggerTable_eq_none (by decide) (by decide), readName_eq_none (by decide) (by decide),
    readName_append hname rfl, String.ofList_toList]
  rfl

end CatalogueChange

/-- **The engine keeps a catalogue** for every table whose name is quoted. -/
theorem Catalogue.keepsCatalogue_script (table : String) :
    script.backend.KeepsCatalogue id id { dialect := .oracle, quoting := true } table where
  acquire s := ⟨(), s, rfl, rfl⟩
  release _ _ := rfl
  createTable columns :=
    takes_of_read (CatalogueChange.read_createTableText (unsplit_identifier table) columns)
  createSequence := takes_of_read (CatalogueChange.read_createSequenceText (unsplit_identifier _))
  createTrigger _ :=
    takes_of_read (CatalogueChange.read_createTriggerText (unsplit_identifier _)
      (unsplit_identifier table) _ _)
  dropTable := takes_of_read (CatalogueChange.read_dropTableText (unsplit_identifier table))
  dropSequence := takes_of_read (CatalogueChange.read_dropSequenceText (unsplit_identifier _))

end PolySql

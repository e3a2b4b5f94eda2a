import Mathlib.Tactic.SplitIfs
import PolySql.Statement.OfSchema

/-!
# The texts of schema statements

What a schema change sends to an engine, written out: the texts are functions of the names as they
are written (`createTableText` and so on), and `compile` puts the names of the table, of its
sequence and of its trigger into them.
-/

namespace PolySql

/-- A text that starts with a word is not blank. -/
theorem Text.isAllBlank_append_of_word {word : String} (h : isAllBlank word = false)
    (rest : String) : isAllBlank (word ++ rest) = false := by
  rw [isAllBlank] at h ⊢
  rw [String.toList_append, List.all_append, h, Bool.false_and]

namespace SchemaChange

/-! ### Texts -/

/-- The text that creates a table. -/
def createTableText (table columns : String) : String :=
  "create table " ++ table ++ " (" ++ columns ++ ")"

/-- The text that creates a sequence. -/
def createSequenceText (sequence : String) : String :=
  "create sequence " ++ sequence

/-- The text that creates a trigger, or puts it in the place of another one of its name. -/
def createTriggerText (trigger table key sequence : String) : String :=
  "create or replace trigger " ++ trigger ++ " before insert on " ++ table ++
    " for each row when (new." ++ key ++ " is null) begin select " ++ sequence ++
    ".nextval into :new." ++ key ++ " from dual; end;"

/-- The text that drops a table, if it is there. -/
def dropTableText (table : String) : String :=
  "drop table " ++ table

/-- The text that drops a sequence. -/
def dropSequenceText (sequence : String) : String :=
  "drop sequence " ++ sequence

section Blank

variable (table key sequence : String)

theorem isAllBlank_createTableText (columns : String) :
    Text.isAllBlank (createTableText table columns) = false := by
  unfold createTableText
  simp only [String.append_assoc]
  exact Text.isAllBlank_append_of_word (by decide) _

theorem isAllBlank_createSequenceText : Text.isAllBlank (createSequenceText sequence) = false :=
  Text.isAllBlank_append_of_word (by decide) _

theorem isAllBlank_createTriggerText (trigger : String) :
    Text.isAllBlank (createTriggerText trigger table key sequence) = false := by
  unfold createTriggerText
  simp only [String.append_assoc]
  exact Text.isAllBlank_append_of_word (by decide) _

theorem isAllBlank_dropTableText : Text.isAllBlank (dropTableText table) = false :=
  Text.isAllBlank_append_of_word (by decide) _

theorem isAllBlank_dropSequenceText : Text.isAllBlank (dropSequenceText sequence) = false :=
  Text.isAllBlank_append_of_word (by decide) _

end Blank

/-- The definitions of columns. -/
def columnsText (w : Writer) (columns : List ColumnDef) : String :=
  (Fragment.joined ", " (columns.map (ColumnDef.fragment w.dialect.types))).neutral w

section Neutral

variable (w : Writer) (table : String)

theorem neutral_createTableFragment (columns : List ColumnDef) :
    (createTableFragment w.dialect.types table columns).neutral w =
      createTableText (w.identifier table) (columnsText w columns) := by
  unfold createTableFragment createTableText columnsText
  simp only [Fragment.neutral_append, Fragment.neutral_text_cons, Fragment.neutral_ident_cons,
    Fragment.neutral_nil, String.append_assoc, String.append_empty]

theorem neutral_createSequenceFragment :
    (createSequenceFragment table).neutral w =
      createSequenceText (w.identifier (sequenceName table)) := by
  unfold createSequenceFragment createSequenceText
  simp only [Fragment.neutral_text_cons, Fragment.neutral_ident_cons, Fragment.neutral_nil,
    String.append_empty]

theorem neutral_createTriggerFragment (key : String) :
    (createTriggerFragment table key).neutral w =
      createTriggerText (w.identifier (triggerName table key)) (w.identifier table)
        (w.identifier key) (w.identifier (sequenceName table)) := by
  unfold createTriggerFragment createTriggerText
  simp only [Fragment.neutral_text_cons, Fragment.neutral_ident_cons, Fragment.neutral_nil,
    String.append_assoc, String.append_empty]

theorem neutral_dropTableFragment :
    (dropTableFragment false table).neutral w = dropTableText (w.identifier table) := by
  unfold dropTableFragment dropTableText
  simp only [Bool.false_eq_true, if_false, Fragment.neutral_text_cons,
    Fragment.neutral_ident_cons, Fragment.neutral_nil, String.append_empty]

theorem neutral_dropSequenceFragment :
    (dropSequenceFragment table).neutral w =
      dropSequenceText (w.identifier (sequenceName table)) := by
  unfold dropSequenceFragment dropSequenceText
  simp only [Fragment.neutral_text_cons, Fragment.neutral_ident_cons, Fragment.neutral_nil,
    String.append_empty]

end Neutral

/-! ### Statements -/

/-- The statement that creates a table. -/
def createStatement (w : Writer) (table : String) (columns : List ColumnDef) : Statement :=
  { sql := createTableText (w.identifier table) (columnsText w columns) }

/-- The statements that create a table whose key fills itself by a sequence: the table, the sequence
and the trigger. -/
def keyedStatements (w : Writer) (table : String) (columns : List ColumnDef) (key : String) :
    List Statement :=
  [createStatement w table columns,
    { sql := createSequenceText (w.identifier (sequenceName table))
      tolerates := some .alreadyExists },
    { sql := createTriggerText (w.identifier (triggerName table key)) (w.identifier table)
        (w.identifier key) (w.identifier (sequenceName table)) }]

/-- The statements that drop a table and its sequence. -/
def dropStatements (w : Writer) (table : String) (ifExists : Bool) : List Statement :=
  [{ sql := dropTableText (w.identifier table)
     tolerates := if ifExists then some .alreadyAbsent else none },
    { sql := dropSequenceText (w.identifier (sequenceName table))
      tolerates := some .alreadyAbsent }]

section Compile

variable {w : Writer} {table : String} {columns : List ColumnDef}

/-- A key that fills itself by a sequence takes three statements. -/
theorem compileCreate_of_key (hstrategy : w.dialect.autoIncrement = .sequenceTrigger)
    (htable : Text.isAllBlank table = false) {key : ColumnDef}
    (hkey : columns.find? (·.type.isAutoIncrement) = some key) :
    compileCreate w table columns = .ok (.sequence (keyedStatements w table columns key.name)) := by
  have hcolumns : ¬ columns.isEmpty := by
    cases columns with
    | nil => simp at hkey
    | cons => simp
  rw [compileCreate, if_neg (by simp [htable]), if_neg hcolumns, hstrategy, hkey]
  simp only [statementOf, neutral_createTableFragment, neutral_createSequenceFragment,
    neutral_createTriggerFragment, keyedStatements, createStatement]

/-- A table without a key that fills itself takes one statement. -/
theorem compileCreate_of_no_key (htable : Text.isAllBlank table = false) (hcolumns : columns ≠ [])
    (hkey : columns.find? (·.type.isAutoIncrement) = none) :
    compileCreate w table columns = .ok (.single (createStatement w table columns)) := by
  rw [compileCreate, if_neg (by simp [htable]), if_neg (by simpa using hcolumns), hkey]
  cases w.dialect.autoIncrement <;>
    simp only [statementOf, neutral_createTableFragment, createStatement]

/-- Where a table may have a sequence, dropping it takes two statements. -/
theorem compileDrop_eq (hstrategy : w.dialect.autoIncrement = .sequenceTrigger)
    (hnative : w.dialect.nativeDropIfExists = false) (htable : Text.isAllBlank table = false)
    (ifExists : Bool) :
    compileDrop w table ifExists = .ok (.sequence (dropStatements w table ifExists)) := by
  rw [compileDrop, if_neg (by simp [htable])]
  simp only [hstrategy, hnative, statementOf, Bool.and_false, Bool.not_false, Bool.and_true,
    neutral_dropTableFragment, neutral_dropSequenceFragment, dropStatements]

end Compile

end SchemaChange

end PolySql

import PolySql.Dialect.Builtin
import PolySql.Proofs.Identifier
import PolySql.Proofs.Schema.Statements

/-!
# The names of helper objects

The sequence of a table is named after the table alone, so that tables of different names have
different sequences.  The trigger of a table is named after the table and its key, joined by an
underscore that both may contain: the triggers of two tables have one name exactly if the tables run
into each other at an underscore, and then creating the second table replaces the trigger of the
first one.
-/

namespace PolySql

/-- Two lists cut at one separator are equal if they are cut at the same place, or if the shorter
first part continues by the separator up to the other cut. -/
theorem append_cons_inj_cases {α : Type} {separator : α} {first second first' second' : List α}
    (h : first ++ separator :: second = first' ++ separator :: second') :
    first = first' ∨
      (∃ middle, first' = first ++ separator :: middle ∧
        second = middle ++ separator :: second') ∨
      ∃ middle, first = first' ++ separator :: middle ∧
        second' = middle ++ separator :: second := by
  rcases List.append_eq_append_iff.mp h with ⟨gap, hfirst, hsecond⟩ | ⟨gap, hfirst, hsecond⟩
  · cases gap with
    | nil => exact .inl (by simpa using hfirst.symm)
    | cons c middle =>
      rw [List.cons_append, List.cons.injEq] at hsecond
      obtain ⟨rfl, hsecond⟩ := hsecond
      exact .inr (.inl ⟨middle, hfirst, hsecond⟩)
  · cases gap with
    | nil => exact .inl (by simpa using hfirst)
    | cons c middle =>
      rw [List.cons_append, List.cons.injEq] at hsecond
      obtain ⟨rfl, hsecond⟩ := hsecond
      exact .inr (.inr ⟨middle, hfirst, hsecond⟩)

namespace SchemaChange

theorem sequenceName_injective : Function.Injective sequenceName := by
  intro table other h
  have hchars := congrArg String.toList h
  rw [sequenceName, sequenceName, String.toList_append, String.toList_append,
    List.append_cancel_right_eq] at hchars
  exact String.toList_inj.mp hchars

/-- A table and its key run into another table and its key: the other table's name goes on, after an
underscore, with a text that the first key begins with. -/
def RunsInto (table key other otherKey : String) : Prop :=
  ∃ middle, other = table ++ "_" ++ middle ∧ key = middle ++ "_" ++ otherKey

theorem RunsInto.underscore_mem {table key other otherKey : String}
    (h : RunsInto table key other otherKey) : '_' ∈ key.toList := by
  obtain ⟨middle, -, rfl⟩ := h
  simp

theorem RunsInto.of_toList {table key other otherKey : String} {middle : List Char}
    (hother : other.toList = table.toList ++ '_' :: middle)
    (hkey : key.toList = middle ++ '_' :: otherKey.toList) :
    RunsInto table key other otherKey :=
  ⟨String.ofList middle, String.toList_inj.mp (by simp [hother]),
    String.toList_inj.mp (by simp [hkey])⟩

theorem RunsInto.triggerName_eq {table key other otherKey : String}
    (h : RunsInto table key other otherKey) :
    triggerName table key = triggerName other otherKey := by
  obtain ⟨middle, rfl, rfl⟩ := h
  simp only [triggerName, String.append_assoc]

theorem toList_triggerName (table key : String) :
    (triggerName table key).toList = (table.toList ++ '_' :: key.toList) ++ "_trg".toList := by
  simp [triggerName]

/-- The triggers of two tables have one name exactly if one table runs into the other one. -/
theorem triggerName_eq_iff {table other : String} (hne : table ≠ other) (key otherKey : String) :
    triggerName table key = triggerName other otherKey ↔
      RunsInto table key other otherKey ∨ RunsInto other otherKey table key := by
  refine ⟨fun h => ?_, fun h => ?_⟩
  · have hchars := congrArg String.toList h
    rw [toList_triggerName, toList_triggerName, List.append_cancel_right_eq] at hchars
    rcases append_cons_inj_cases hchars with hsame | ⟨middle, hother, hkey⟩ | ⟨middle, htable, hkey⟩
    · exact absurd (String.toList_inj.mp hsame) hne
    · exact .inl (.of_toList hother hkey)
    · exact .inr (.of_toList htable hkey)
  · rcases h with h | h
    · exact h.triggerName_eq
    · exact h.triggerName_eq.symm

theorem dotFree_sequenceName {table : String} (h : '.' ∉ table.toList) :
    '.' ∉ (sequenceName table).toList := by
  simpa [sequenceName] using h

theorem dotFree_triggerName {table key : String} (htable : '.' ∉ table.toList)
    (hkey : '.' ∉ key.toList) : '.' ∉ (triggerName table key).toList := by
  simp [triggerName, htable, hkey]

/-- **Helper objects of two tables.**  In a dialect of sequences and triggers, creating two tables
of different names, with keys that fill themselves and no dot in a name, names two sequences, and
one trigger for both of them exactly if one table runs into the other one: for keys without an
underscore never. -/
theorem compile_createTable_names {d : Dialect} {quoting : Bool} {override : Option Bool}
    {table other : String} {columns others : List ColumnDef} {key otherKey : ColumnDef}
    (hstrategy : d.autoIncrement = .sequenceTrigger) (hne : table ≠ other)
    (htable : Text.isAllBlank table = false) (hother : Text.isAllBlank other = false)
    (hkey : columns.find? (·.type.isAutoIncrement) = some key)
    (hotherKey : others.find? (·.type.isAutoIncrement) = some otherKey)
    (hdots : ∀ name ∈ [table, other, key.name, otherKey.name], '.' ∉ name.toList) :
    let w : Writer := { dialect := d, quoting := override.getD quoting }
    compile d quoting (.createTable table columns override) =
        .ok (.sequence (keyedStatements w table columns key.name)) ∧
      compile d quoting (.createTable other others override) =
        .ok (.sequence (keyedStatements w other others otherKey.name)) ∧
      w.identifier (sequenceName table) ≠ w.identifier (sequenceName other) ∧
      (w.identifier (triggerName table key.name) = w.identifier (triggerName other otherKey.name) ↔
        RunsInto table key.name other otherKey.name ∨
          RunsInto other otherKey.name table key.name) ∧
      ('_' ∉ key.name.toList → '_' ∉ otherKey.name.toList →
        w.identifier (triggerName table key.name) ≠
          w.identifier (triggerName other otherKey.name)) := by
  intro w
  obtain ⟨hdotTable, hdotOther, hdotKey, hdotOtherKey⟩ :
      '.' ∉ table.toList ∧ '.' ∉ other.toList ∧ '.' ∉ key.name.toList ∧
        '.' ∉ otherKey.name.toList := by
    simpa using hdots
  have hsequences : w.identifier (sequenceName table) ≠ w.identifier (sequenceName other) := by
    intro h
    rw [w.identifier_inj_of_dotFree (dotFree_sequenceName hdotTable)
      (dotFree_sequenceName hdotOther)] at h
    exact hne (sequenceName_injective h)
  have htriggers : w.identifier (triggerName table key.name) =
      w.identifier (triggerName other otherKey.name) ↔
        RunsInto table key.name other otherKey.name ∨
          RunsInto other otherKey.name table key.name := by
    rw [w.identifier_inj_of_dotFree (dotFree_triggerName hdotTable hdotKey)
      (dotFree_triggerName hdotOther hdotOtherKey)]
    exact triggerName_eq_iff hne key.name otherKey.name
  refine ⟨compileCreate_of_key (w := w) hstrategy htable hkey,
    compileCreate_of_key (w := w) hstrategy hother hotherKey, hsequences, htriggers, ?_⟩
  intro hplain hotherPlain h
  rcases htriggers.mp h with h | h
  · exact hplain h.underscore_mem
  · exact hotherPlain h.underscore_mem

/-- The key of the stock. -/
def itemsKey : ColumnDef where
  name := "items_id"
  type := .increments

/-- The key of the items in stock. -/
def idKey : ColumnDef where
  name := "id"
  type := .bigIncrements

/-- A table `stock` with the key `items_id` runs into a table `stock_items` with the key `id`. -/
theorem compile_createTable_names_stock :
    (Dialect.oracle.autoIncrement = .sequenceTrigger ∧ "stock" ≠ "stock_items" ∧
      Text.isAllBlank "stock" = false ∧ Text.isAllBlank "stock_items" = false ∧
      [itemsKey].find? (·.type.isAutoIncrement) = some itemsKey ∧
      [idKey].find? (·.type.isAutoIncrement) = some idKey ∧
      ∀ name ∈ ["stock", "stock_items", itemsKey.name, idKey.name], '.' ∉ name.toList) ∧
    let w : Writer := { dialect := .oracle, quoting := true }
    w.identifier (sequenceName "stock") ≠ w.identifier (sequenceName "stock_items") ∧
      w.identifier (triggerName "stock" "items_id") =
        w.identifier (triggerName "stock_items" "id") := by
  have hdots : ∀ name ∈ ["stock", "stock_items", itemsKey.name, idKey.name],
      '.' ∉ name.toList := by decide
  have hitems : [itemsKey].find? (·.type.isAutoIncrement) = some itemsKey := rfl
  have hid : [idKey].find? (·.type.isAutoIncrement) = some idKey := rfl
  obtain ⟨-, -, hsequences, htriggers, -⟩ : _ ∧
      compile .oracle true (.createTable "stock_items" [idKey] none) = _ ∧ _ :=
    compile_createTable_names rfl (by decide) (by decide) (by decide) hitems hid hdots
  exact ⟨⟨rfl, by decide, by decide, by decide, hitems, hid, hdots⟩, hsequences,
    htriggers.mpr (.inl ⟨"items", by decide, by decide⟩)⟩

/-- Creating the table `stock_items` replaces the trigger of the table `stock`, whose key is not
filled any more. -/
theorem not_triggers_apart :
    ∃ stock items : List Statement,
      compile .oracle true (.createTable "stock" [itemsKey] none) = .ok (.sequence stock) ∧
      compile .oracle true (.createTable "stock_items" [idKey] none) = .ok (.sequence items) ∧
      (stock.map (·.sql))[2]? = some (createTriggerText "\"stock_items_id_trg\""
        "\"stock\"" "\"items_id\"" "\"stock_seq\"") ∧
      (items.map (·.sql))[2]? = some (createTriggerText "\"stock_items_id_trg\""
        "\"stock_items\"" "\"id\"" "\"stock_items_seq\"") := by
  let w : Writer := { dialect := .oracle, quoting := true }
  have hstock : w.identifier (triggerName "stock" itemsKey.name) = "\"stock_items_id_trg\"" ∧
      w.identifier "stock" = "\"stock\"" ∧ w.identifier itemsKey.name = "\"items_id\"" ∧
      w.identifier (sequenceName "stock") = "\"stock_seq\"" := by decide
  have hitems : w.identifier (triggerName "stock_items" idKey.name) = "\"stock_items_id_trg\"" ∧
      w.identifier "stock_items" = "\"stock_items\"" ∧ w.identifier idKey.name = "\"id\"" ∧
      w.identifier (sequenceName "stock_items") = "\"stock_items_seq\"" := by decide
  have hcompile : compile .oracle true (.createTable "stock" [itemsKey] none) =
      .ok (.sequence (keyedStatements w "stock" [itemsKey] itemsKey.name)) :=
    compileCreate_of_key (w := w) rfl (by decide) (List.find?_cons_of_pos rfl)
  have hcompileItems : compile .oracle true (.createTable "stock_items" [idKey] none) =
      .ok (.sequence (keyedStatements w "stock_items" [idKey] idKey.name)) :=
    compileCreate_of_key (w := w) rfl (by decide) (List.find?_cons_of_pos rfl)
  refine ⟨_, _, hcompile, hcompileItems, ?_, ?_⟩
  · rw [← hstock.1, ← hstock.2.1, ← hstock.2.2.1, ← hstock.2.2.2]
    rfl
  · rw [← hitems.1, ← hitems.2.1, ← hitems.2.2.1, ← hitems.2.2.2]
    rfl

end SchemaChange

end PolySql

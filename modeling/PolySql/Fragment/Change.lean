import PolySql.Fragment.Select

/-!
# Inserts, updates and deletes

Each statement takes one of three ways to hand changed rows back: an output clause before the values
or conditions, a list of columns at the end, or a slot for the row id at the end, for a select
afterwards.

A `Draft` is a statement under construction together with that select.  Whatever writes a slot also
gives the name under which its row id comes back, and whatever collects these names writes the
select.
-/

namespace PolySql

/-! ### Drafts -/

/-- A select under construction that fetches changed rows by their ids. -/
structure RefetchDraft where
  fragment : Fragment
  /-- The names under which the row ids are found, in the order of their places. -/
  rowIds : List String

/-- A statement under construction, with the select that fetches the rows which it changes. -/
structure Draft where
  fragment : Fragment
  refetch : Option RefetchDraft := none

/-- A draft behind a fragment. -/
def Draft.after (before : Fragment) (draft : Draft) : Draft :=
  { draft with fragment := before ++ draft.fragment }

@[simp] theorem Draft.fragment_after (before : Fragment) (draft : Draft) :
    (draft.after before).fragment = before ++ draft.fragment := rfl

@[simp] theorem Draft.refetch_after (before : Fragment) (draft : Draft) :
    (draft.after before).refetch = draft.refetch := rfl

/-- The select of columns by a number of row ids. -/
def Query.refetchFragment (d : Dialect) (table : String) (columns : List String) (count : Nat) :
    Fragment :=
  [.text "select "] ++ Fragment.selectList d.aliasStyle columns ++
    [.text " from ", .ident table, .text " where ROWID in ("] ++
    Fragment.joined ", " (List.replicate count [.text "?"]) ++ [.text ")"]

/-- The select of columns by the row ids that come back under the given names. -/
def RefetchDraft.select (d : Dialect) (table : String) (columns rowIds : List String) :
    RefetchDraft :=
  { fragment := Query.refetchFragment d table columns rowIds.length, rowIds }

/-! ### Handing rows back -/

namespace Fragment

/-- The clause that hands columns back from before the values or conditions. -/
def output (d : Dialect) (pseudoTable : String) (returning : Option (List String)) : Fragment :=
  match d.returningStrategy, returning with
  | .output, some columns =>
    .text " output " ::
      joined ", " (columns.map fun column => [.text (pseudoTable ++ "."), .ident column])
  | _, _ => []

/-- The slot for the row id of a changed row, and the name under which the row id comes back. -/
def rowIdSlot (columns : List String) (ordinal : Nat) : Fragment × String :=
  let slot : ReturningSlot := { column := String.intercalate ":" columns, ordinal }
  ([.text " returning ROWID into ", .bound (.returning slot)], slot.outBindName)

end Fragment

/-- The clause that hands columns back from the end of the statement. -/
def Draft.trailingReturning (d : Dialect) (table : String) (returning : Option (List String)) :
    Draft :=
  match returning with
  | none => { fragment := [] }
  | some columns =>
    match d.returningStrategy with
    | .native => { fragment := .text " returning " :: Fragment.selectList d.aliasStyle columns }
    | .output => { fragment := [] }
    | .refetch =>
      let (slot, rowId) := Fragment.rowIdSlot columns 0
      { fragment := slot, refetch := some (.select d table columns [rowId]) }

/-! ### Inserts -/

/-- Put a text into a list in strictly increasing order. -/
def insertDistinct (s : String) : List String → List String
  | [] => [s]
  | t :: rest =>
    if s < t then s :: t :: rest
    else if s = t then t :: rest
    else t :: insertDistinct s rest

/-- The distinct texts of a list, in increasing order. -/
def sortedDistinct (texts : List String) : List String :=
  texts.foldr insertDistinct []

namespace Query

/-- The columns of an insert: every name in any of its rows, in increasing order. -/
def insertColumns (q : Query) : List String :=
  sortedDistinct (q.rows.flatMap fun row => row.map Prod.fst)

end Query

/-- The value of a column in a row: that of its first cell of the name, or null. -/
def cellValue (row : List Cell) (column : String) : Value :=
  (row.lookup column).getD .null

namespace Fragment

/-- The values of a row, in the order of the columns. -/
def rowValues (columns : List String) (row : List Cell) : Fragment :=
  valueList (columns.map (cellValue row))

/-- A list of identifiers. -/
def identList (names : List String) : Fragment :=
  joined ", " (names.map fun name => [.ident name])

/-- The table of an insert with its columns. -/
def insertTarget (table : String) (columns : List String) : Fragment :=
  [.ident table, .text " ("] ++ identList columns ++ [.text ")"]

/-- The insert of one row, with a slot of its own, and the name under which the row id comes
back. -/
def insertWithSlot (table : String) (columns : List String) (row : List Cell)
    (returning : List String) (ordinal : Nat) : Fragment × String :=
  let (slot, rowId) := rowIdSlot returning ordinal
  (.text " insert into " :: insertTarget table columns ++ [.text " values ("] ++
    rowValues columns row ++ [.text ")"] ++ slot ++ [.text ";"], rowId)

/-- Several rows in one insert by a select from the one-row table. -/
def insertAll (table : String) (columns : List String) (rows : List (List Cell)) : Fragment :=
  .text "insert all" ::
    rows.flatMap (fun row =>
      .text " into " :: insertTarget table columns ++ [.text " values ("] ++
        rowValues columns row ++ [.text ")"]) ++
    [.text " select 1 from dual"]

end Fragment

namespace Draft

/-- One insert a row, each with a slot of its own, in a block. -/
def insertBlock (d : Dialect) (table : String) (columns : List String) (rows : List (List Cell))
    (returning : List String) : Draft :=
  let inserts := rows.zipIdx.map fun (row, ordinal) =>
    Fragment.insertWithSlot table columns row returning ordinal
  { fragment := .text "begin" :: inserts.flatMap Prod.fst ++ [.text " end;"]
    refetch := some (.select d table returning (inserts.map Prod.snd)) }

theorem fragment_insertBlock (d : Dialect) (table : String) (columns : List String)
    (rows : List (List Cell)) (returning : List String) :
    (insertBlock d table columns rows returning).fragment =
      .text "begin" ::
        rows.zipIdx.flatMap (fun (row, ordinal) =>
          (Fragment.insertWithSlot table columns row returning ordinal).1) ++ [.text " end;"] := by
  rw [insertBlock, List.flatMap_map]

/-- Several rows in one insert by a list of rows. -/
def insertRows (d : Dialect) (table : String) (columns : List String) (rows : List (List Cell))
    (returning : Option (List String)) : Draft :=
  (trailingReturning d table returning).after
    (.text "insert into " :: Fragment.insertTarget table columns ++
      Fragment.output d "inserted" returning ++ [.text " values "] ++
      Fragment.joined ", "
        (rows.map fun row => Fragment.wrapped "(" ")" (Fragment.rowValues columns row)))

end Draft

namespace Query

/-- The rows of an insert, written in the way of the dialect. -/
def insertBody (d : Dialect) (q : Query) : Draft :=
  if d.returningStrategy = .refetch ∧ 1 < q.rows.length then
    match q.returningColumns? with
    | some returning => .insertBlock d q.table q.insertColumns q.rows returning
    | none => { fragment := Fragment.insertAll q.table q.insertColumns q.rows }
  else .insertRows d q.table q.insertColumns q.rows q.returningColumns?

/-- The insert of a query. -/
def insertDraft (d : Dialect) (q : Query) : Except CompileError Draft :=
  if q.rows.isEmpty then .error .insertWithoutRows
  else if q.insertColumns.isEmpty then .error .insertWithoutColumns
  else .ok (q.insertBody d)

/-! ### Updates and deletes -/

/-- The assignments of an update. -/
def setFragment (q : Query) : Except CompileError Fragment :=
  if q.assignments.isEmpty then .error .updateWithoutValues
  else
    .ok <| Fragment.joined ", " <|
      q.assignments.map fun (column, v) => [.ident column, .text " = ", .value v]

/-- The assignment of a counter: its column plus or minus the absolute value of its amount. -/
def counterFragment (q : Query) : Except CompileError Fragment :=
  match q.counter with
  | none => .error .counterWithoutColumn
  | some { column, amount } =>
    if amount = Int64.minValue then .error (.counterAmount amount)
    else
      let sign := if amount < 0 then " - " else " + "
      .ok [.ident column, .text " = ", .ident column, .text sign, .value (.int amount.abs)]

/-- The update of a query. -/
def updateDraft (d : Dialect) (q : Query) : Except CompileError Draft := do
  let assignments ← if q.method = .counter then q.counterFragment else q.setFragment
  let conditions ← conditionFragments d q.conditions
  return (Draft.trailingReturning d q.table q.returningColumns?).after
    ([.text "update ", .ident q.table, .text " set "] ++ assignments ++
      Fragment.output d "inserted" q.returningColumns? ++ Fragment.whereClause conditions)

/-- The delete of a query. -/
def deleteDraft (d : Dialect) (q : Query) : Except CompileError Draft := do
  if d.returningStrategy = .refetch ∧ q.returningColumns?.isSome then
    throw .refetchAfterDelete
  let conditions ← conditionFragments d q.conditions
  return (Draft.trailingReturning d q.table q.returningColumns?).after
    ([.text "delete from ", .ident q.table] ++
      Fragment.output d "deleted" q.returningColumns? ++ Fragment.whereClause conditions)

end Query

end PolySql

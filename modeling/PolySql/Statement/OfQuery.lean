import PolySql.Fragment.Change
import PolySql.Statement.Basic

/-!
# The statement of a query

`Query.compile` writes the draft of a query in neutral form and then numbers the neutral marks of
the whole text.  The refetch that comes with a draft is numbered on its own.
-/

namespace PolySql

/-- The refetch that a draft makes. -/
def RefetchDraft.refetch (w : Writer) (draft : RefetchDraft) : Refetch :=
  { sql := Placeholder.position w.dialect.placeholderStyle (draft.fragment.neutral w)
    rowIds := draft.rowIds }

namespace Query

/-- The statement of a query under construction. -/
def draft (d : Dialect) (q : Query) : Except CompileError Draft :=
  if Text.isAllBlank q.table then .error .noTable
  else
    match q.method with
    | .select | .pluck | .first => do return { fragment := ← q.selectFragment d }
    | .insert => q.insertDraft d
    | .update | .counter => q.updateDraft d
    | .delete => q.deleteDraft d
    | .schema => .error .schemaMethod

/-- The statement that a draft of a query makes. -/
def statementOf (w : Writer) (q : Query) (draft : Draft) : Statement :=
  { sql := Placeholder.position w.dialect.placeholderStyle (draft.fragment.neutral w)
    bindings := draft.fragment.bindings
    method := q.method
    returning := q.returning
    refetch := draft.refetch.map (RefetchDraft.refetch w)
    pluck := q.pluck }

/-- The writer of a query, whose own quoting goes before the default. -/
def writer (d : Dialect) (quoting : Bool) (q : Query) : Writer :=
  { dialect := d, quoting := q.quoting.getD quoting }

/-- The statement of a query, which is refused if its text is blank. -/
def compile (d : Dialect) (quoting : Bool) (q : Query) : Except CompileError Statement := do
  let w := q.writer d quoting
  let draft ← q.draft d
  if Text.isAllBlank (draft.fragment.neutral w) then throw .emptyQuery
  return q.statementOf w draft

end Query

end PolySql

import PolySql.Fragment.SelectList
import PolySql.Fragment.Window
import PolySql.Query.Basic

/-!
# Selects and their conditions

`Query.selectFragment` is the select of a query and `Predicate.fragment` a condition.  The two call
each other: a condition may hold a query, whose select stands in it in parentheses, with its
bindings in their place from left to right.  Such a query is written like the query around it.

A conjunction or disjunction of several conditions stands in parentheses, an empty conjunction is
always true, and an empty disjunction or list of values always false.
-/

namespace PolySql

/-! ### The clauses that hold no conditions -/

/-- The words of a join. -/
def JoinKind.words : JoinKind → String
  | .inner => " inner join "
  | .left => " left join "
  | .right => " right join "

/-- The word of a direction. -/
def Direction.word : Direction → String
  | .asc => " asc"
  | .desc => " desc"

namespace Fragment

/-- A join. -/
def join (j : Join) : Fragment :=
  [.text j.kind.words, .ident j.table, .text " on ", .ident j.left,
    .text (" " ++ j.op.sql ++ " "), .ident j.right]

/-- The ordering, if there is one. -/
def orderBy (keys : List OrderKey) : Fragment :=
  if keys.isEmpty then []
  else .text " order by " ::
    joined ", " (keys.map fun key => [.ident key.column, .text key.direction.word])

/-- The select of a query up to its joins. -/
def selectHead (d : Dialect) (q : Query) : Fragment :=
  [.text (if q.distinct then "select distinct " else "select ")] ++
    selectList d.aliasStyle q.selectColumns ++ [.text " from ", .ident q.table] ++
    q.joins.flatMap join

/-- The conditions of a statement, if there are any. -/
def whereClause (conditions : List Fragment) : Fragment :=
  if conditions.isEmpty then [] else .text " where " :: joined " and " conditions

/-- A bound value after each comma. -/
def valueList (values : List Value) : Fragment :=
  joined ", " (values.map fun v => [.value v])

end Fragment

/-! ### Conditions and selects -/

mutual

/-- A condition. -/
def Predicate.fragment (d : Dialect) : Predicate → Except CompileError Fragment
  | .compare column op v => .ok [.ident column, .text (" " ++ op.sql ++ " "), .value v]
  | .inList column values =>
    .ok <|
      if values.isEmpty then [.text "1 = 0"]
      else [.ident column, .text " in ("] ++ Fragment.valueList values ++ [.text ")"]
  | .inQuery column query => do
    let select ← query.selectFragment d
    return [.ident column, .text " in ", .text "("] ++ select ++ [.text ")"]
  | .isNull column => .ok [.ident column, .text " is null"]
  | .notNull column => .ok [.ident column, .text " is not null"]
  | .raw sql values => .ok [.raw sql values]
  | .and children => do
    let fragments ← conditionFragments d children
    return if children.isEmpty then [.text "1 = 1"]
      else Fragment.wrapped "(" ")" (Fragment.joined " and " fragments)
  | .or children => do
    let fragments ← conditionFragments d children
    return if children.isEmpty then [.text "1 = 0"]
      else Fragment.wrapped "(" ")" (Fragment.joined " or " fragments)
  | .not child => do return Fragment.wrapped "not (" ")" (← child.fragment d)

/-- Conditions, one by one. -/
def conditionFragments (d : Dialect) : List Predicate → Except CompileError (List Fragment)
  | [] => .ok []
  | p :: ps => do return (← p.fragment d) :: (← conditionFragments d ps)

/-- The select of a query, cut to its window. -/
def Query.selectFragment (d : Dialect) : Query → Except CompileError Fragment
  | q@{ conditions, .. } => do
    let where_ := Fragment.whereClause (← conditionFragments d conditions)
    Fragment.windowed d.limitStrategy (!q.ordering.isEmpty)
      (Fragment.selectHead d q ++ where_ ++ Fragment.orderBy q.ordering) q.rowLimit q.offset

end

end PolySql

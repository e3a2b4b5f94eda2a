import PolySql.CompileError
import PolySql.Fragment.Basic

/-!
# Windows of rows

`Fragment.windowed` cuts a select to the rows after `offset`, at most `limit` of them, in the way of
the dialect.  The bounds are bound as integers, after all other values of the select.
-/

namespace PolySql

/-- The number of rows that stands for "all" where a window by row numbers needs an end. -/
def rowNumberCap : Nat := 10_000_000_000_000

/-- A bound of a window as a bound value. -/
def windowPiece (bound : WindowBound) (n : Nat) : Except CompileError Piece :=
  if n < 0x8000_0000_0000_0000 then .ok (.value (.int (Int64.ofNat n)))
  else .error (.windowBound bound n)

namespace Fragment

/-- `limit ? offset ?`, with a limit of -1 before an offset that must not stand alone. -/
def limitOffset (requiresLimit : Bool) (f : Fragment) (limit offset : Option UInt64) :
    Except CompileError Fragment := do
  let limited ←
    match limit, offset with
    | some n, _ => do pure (f ++ [.text " limit ", ← windowPiece .limit n.toNat])
    | none, some _ =>
      pure (if requiresLimit then f ++ [.text " limit ", .value (.int (-1))] else f)
    | none, none => pure f
  match offset with
  | some n => do pure (limited ++ [.text " offset ", ← windowPiece .offset n.toNat])
  | none => pure limited

/-- `offset ? rows fetch next ? rows only`, after an ordering, for which any will do. -/
def offsetFetch (ordered : Bool) (f : Fragment) (limit offset : Option UInt64) :
    Except CompileError Fragment := do
  let base := if ordered then f else f ++ [.text " order by (select 0)"]
  let skip ← windowPiece .offset (offset.map UInt64.toNat |>.getD 0)
  let skipped := base ++ [.text " offset ", skip, .text " rows"]
  match limit with
  | some n => do
    pure (skipped ++ [.text " fetch next ", ← windowPiece .limit n.toNat, .text " rows only"])
  | none => pure skipped

/-- Conditions on the row number around the select. -/
def rowNum (f : Fragment) (limit offset : Option UInt64) : Except CompileError Fragment := do
  let count := (limit.map UInt64.toNat).getD rowNumberCap
  match offset with
  | none => do
    pure (wrapped "select * from (" ") where rownum <= " f ++ [← windowPiece .limit count])
  | some n => do
    let last := n.toNat + count
    if UInt64.size ≤ last then throw .windowEnd
    let numbered :=
      wrapped "select row_.*, ROWNUM rownum_ from (" ") row_ where rownum <= " f ++
        [← windowPiece .limit last]
    pure (wrapped "select * from (" ") where rownum_ > " numbered ++
      [← windowPiece .offset n.toNat])

/-- A select cut to a window; without bounds it stays as it is. -/
def windowed (strategy : LimitStrategy) (ordered : Bool) (f : Fragment)
    (limit offset : Option UInt64) : Except CompileError Fragment :=
  if limit.isNone && offset.isNone then .ok f
  else
    match strategy with
    | .limitOffset requiresLimit => limitOffset requiresLimit f limit offset
    | .offsetFetch => offsetFetch ordered f limit offset
    | .rowNum => rowNum f limit offset

end Fragment

end PolySql

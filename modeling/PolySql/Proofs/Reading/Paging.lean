import Mathlib.Data.List.TakeDrop
import PolySql.Proofs.Fragment.Window

/-!
# Reading the paging of a select

What stands around a select that is cut to a window is read as clauses, each with one bound.  The
reader knows nothing of the compiler: `PagingClause.opening` and `PagingClause.closing` are the
texts of a clause before and after the select, and `PagingClause.apply` is what the clause does to
rows.  `readPaging` reads the clauses from the inside out.

The window that a dialect writes is read as the clauses of its strategy with exact bounds
(`readPaging_window`), and whatever the strategy, these pick the same rows (`rows_pagingClauses`).
-/

namespace PolySql

variable {ρ : Type}

/-! ### Clauses -/

/-- A clause that picks some rows of a select by a bound. -/
inductive PagingClause where
  | limit
  | offset
  | offsetRows
  | fetchNext
  /-- An upper bound of the row numbers of the select in parentheses. -/
  | rownum
  /-- The same, and the row numbers are kept beside the rows. -/
  | numbered
  /-- A lower bound of the row numbers beside the rows of the select in parentheses. -/
  | above
  deriving DecidableEq, Repr

/-- The rows that a select is about to give: rows, each with its number if it has one, and the
bounds to be applied to them. -/
structure Paged (ρ : Type) where
  rows : List (ρ × Option Nat)
  skip : Nat := 0
  keep : Option Nat := none

namespace Paged

/-- The rows without any bounds. -/
def ofRows (rows : List ρ) : Paged ρ :=
  { rows := rows.map fun row => (row, none) }

/-- The rows that the bounds pick: some are skipped, and of the others the first ones kept. -/
def picked (p : Paged ρ) : List (ρ × Option Nat) :=
  match p.keep with
  | none => p.rows.drop p.skip
  | some n => (p.rows.drop p.skip).take n

/-- Rows with their numbers from 1. -/
def ofNumbered (rows : List ρ) : Paged ρ :=
  { rows := (rows.zipIdx 1).map fun (row, number) => (row, some number) }

end Paged

namespace PagingClause

/-- All clauses. -/
def all : List PagingClause :=
  [.limit, .offset, .offsetRows, .fetchNext, .rownum, .numbered, .above]

/-- The text of a clause before the select. -/
def opening : PagingClause → String
  | .rownum => "select * from ("
  | .numbered => "select row_.*, ROWNUM rownum_ from ("
  | .above => "select * from ("
  | _ => ""

/-- The text of a clause after the select. -/
def closing : PagingClause → String
  | .limit => " limit ?"
  | .offset => " offset ?"
  | .offsetRows => " offset ? rows"
  | .fetchNext => " fetch next ? rows only"
  | .rownum => ") where rownum <= ?"
  | .numbered => ") row_ where rownum <= ?"
  | .above => ") where rownum_ > ?"

/-- What a clause does to rows.  A negative limit keeps all of them, and an offset goes before a
limit, wherever it stands. -/
def apply (n : Int) (p : Paged ρ) : PagingClause → Paged ρ
  | .limit => { p with keep := if n < 0 then none else some n.toNat }
  | .offset => { p with skip := n.toNat }
  | .offsetRows => { p with skip := n.toNat }
  | .fetchNext => { p with keep := some n.toNat }
  | .rownum => { rows := p.picked.take n.toNat }
  | .numbered => Paged.ofNumbered ((p.picked.map Prod.fst).take n.toNat)
  | .above => { rows := p.picked.filter fun row => row.2.any fun number => n < number }

/-- The rows that clauses pick, the inner ones first. -/
def rows (clauses : List (PagingClause × Int)) (rows : List ρ) : List ρ :=
  (clauses.foldl (fun p (c, n) => c.apply n p) (Paged.ofRows rows)).picked.map Prod.fst

end PagingClause

/-! ### Reading -/

/-- The rest of a text after a part of it, if it starts with this part. -/
def afterPart (part : String) (text : List Char) : Option (List Char) :=
  if part.toList.isPrefixOf text then some (text.drop part.toList.length) else none

theorem afterPart_append (part : String) (text : List Char) :
    afterPart part (part.toList ++ text) = some text := by
  simp [afterPart]

/-- A text that starts with another part has nothing after the part that is looked for. -/
theorem afterPart_eq_none {part other : String} (hpart : ¬ part.toList <+: other.toList)
    (hother : ¬ other.toList <+: part.toList) (text : List Char) :
    afterPart part (other.toList ++ text) = none := by
  refine if_neg fun hprefix => ?_
  rcases List.prefix_or_prefix_of_prefix (List.isPrefixOf_iff_prefix.mp hprefix)
    (List.prefix_append other.toList text) with h | h
  · exact hpart h
  · exact hother h

/-- The clauses that stand in a text one after the other, each with one of the values. -/
def readClosings : List Value → List Char → Option (List (PagingClause × Int))
  | [], text => if text.isEmpty then some [] else none
  | .int n :: values, text =>
    PagingClause.all.findSome? fun c => do
      let rest ← afterPart c.closing text
      return (c, n.toInt) :: (← readClosings values rest)
  | _ :: _, _ => none

/-- A text without an ordering at its start that leaves the order as it is. -/
def withoutAnyOrder (text : List Char) : List Char :=
  (afterPart " order by (select 0)" text).getD text

/-- The clauses around a select, from the inside out.  What stands before the select has to be what
the clauses after it want there. -/
def readPaging (before after : String) (values : List Value) :
    Option (List (PagingClause × Int)) := do
  let clauses ← readClosings values (withoutAnyOrder after.toList)
  if before.toList = clauses.reverse.flatMap fun (c, _) => c.opening.toList then some clauses
  else none

/-! ### The windows of the strategies -/

/-- The clauses of a window, from the inside out. -/
def pagingClauses : LimitStrategy → Option UInt64 → Option UInt64 → List (PagingClause × Int)
  | _, none, none => []
  | .limitOffset _, some n, none => [(.limit, n.toNat)]
  | .limitOffset _, some n, some m => [(.limit, n.toNat), (.offset, m.toNat)]
  | .limitOffset true, none, some m => [(.limit, -1), (.offset, m.toNat)]
  | .limitOffset false, none, some m => [(.offset, m.toNat)]
  | .offsetFetch, some n, offset =>
    [(.offsetRows, (offset.map UInt64.toNat).getD 0), (.fetchNext, n.toNat)]
  | .offsetFetch, none, some m => [(.offsetRows, m.toNat)]
  | .rowNum, some n, none => [(.rownum, n.toNat)]
  | .rowNum, limit, some m => [(.numbered, windowEnd limit m.toNat), (.above, m.toNat)]

/-! ### Reading windows -/

section Texts

variable {n m : Nat}

theorem readPaging_nil : readPaging "" "" [] = some [] := (rfl)

theorem readPaging_limit (hn : n < 0x8000_0000_0000_0000) :
    readPaging "" " limit ?" [boundValue n] = some [(.limit, (n : Int))] := by
  rw [← Int64.toInt_ofNat_of_lt hn]
  rfl

theorem readPaging_limitOffset (hn : n < 0x8000_0000_0000_0000) (hm : m < 0x8000_0000_0000_0000) :
    readPaging "" " limit ? offset ?" [boundValue n, boundValue m] =
      some [(.limit, (n : Int)), (.offset, (m : Int))] := by
  rw [← Int64.toInt_ofNat_of_lt hn, ← Int64.toInt_ofNat_of_lt hm]
  rfl

theorem readPaging_allOffset (hm : m < 0x8000_0000_0000_0000) :
    readPaging "" " limit ? offset ?" [.int (-1), boundValue m] =
      some [(.limit, -1), (.offset, (m : Int))] := by
  rw [← Int64.toInt_ofNat_of_lt hm]
  rfl

theorem readPaging_offset (hm : m < 0x8000_0000_0000_0000) :
    readPaging "" " offset ?" [boundValue m] = some [(.offset, (m : Int))] := by
  rw [← Int64.toInt_ofNat_of_lt hm]
  rfl

theorem readPaging_offsetRows (ordered : Bool) (hm : m < 0x8000_0000_0000_0000) :
    readPaging "" ((if ordered then "" else " order by (select 0)") ++ " offset ? rows")
        [boundValue m] = some [(.offsetRows, (m : Int))] := by
  rw [← Int64.toInt_ofNat_of_lt hm]
  cases ordered <;> rfl

theorem readPaging_fetchNext (ordered : Bool) (hn : n < 0x8000_0000_0000_0000)
    (hm : m < 0x8000_0000_0000_0000) :
    readPaging ""
        ((if ordered then "" else " order by (select 0)") ++
          " offset ? rows fetch next ? rows only") [boundValue m, boundValue n] =
      some [(.offsetRows, (m : Int)), (.fetchNext, (n : Int))] := by
  rw [← Int64.toInt_ofNat_of_lt hn, ← Int64.toInt_ofNat_of_lt hm]
  cases ordered <;> rfl

theorem readPaging_rownum (hn : n < 0x8000_0000_0000_0000) :
    readPaging "select * from (" ") where rownum <= ?" [boundValue n] =
      some [(.rownum, (n : Int))] := by
  rw [← Int64.toInt_ofNat_of_lt hn]
  rfl

theorem readPaging_numbered (hn : n < 0x8000_0000_0000_0000) (hm : m < 0x8000_0000_0000_0000) :
    readPaging "select * from (select row_.*, ROWNUM rownum_ from ("
        ") row_ where rownum <= ?) where rownum_ > ?" [boundValue n, boundValue m] =
      some [(.numbered, (n : Int)), (.above, (m : Int))] := by
  rw [← Int64.toInt_ofNat_of_lt hn, ← Int64.toInt_ofNat_of_lt hm]
  rfl

end Texts

namespace Fragment

/-- **A window is read as the clauses of its strategy.**  The bounds are exact where they fit. -/
theorem readPaging_window {strategy : LimitStrategy} {limit offset : Option UInt64}
    (hfits : WindowFits strategy limit offset) (ordered : Bool) (w : Writer) :
    readPaging ((windowOpening strategy limit offset).neutral w)
        ((windowClosing strategy ordered limit offset).neutral w)
        (windowValues strategy limit offset) =
      some (pagingClauses strategy limit offset) := by
  have hzero : 0 < 0x8000_0000_0000_0000 := by decide
  cases strategy with
  | limitOffset requiresLimit =>
    obtain ⟨hlimit, hoffset⟩ := hfits
    rcases limit with _ | n <;> rcases offset with _ | m
    · exact readPaging_nil
    · cases requiresLimit
      · simpa [windowOpening, windowClosing, windowValues, pagingClauses] using
          readPaging_offset (hoffset m rfl)
      · simpa [windowOpening, windowClosing, windowValues, pagingClauses] using
          readPaging_allOffset (hoffset m rfl)
    · simpa [windowOpening, windowClosing, windowValues, pagingClauses] using
        readPaging_limit (hlimit n rfl)
    · simpa [windowOpening, windowClosing, windowValues, pagingClauses] using
        readPaging_limitOffset (hlimit n rfl) (hoffset m rfl)
  | offsetFetch =>
    obtain ⟨hlimit, hoffset⟩ := hfits
    rcases limit with _ | n <;> rcases offset with _ | m
    · exact readPaging_nil
    · have hread := readPaging_offsetRows ordered (hoffset m rfl)
      cases ordered <;>
        simpa [windowOpening, windowClosing, windowValues, pagingClauses] using hread
    · have hread := readPaging_fetchNext ordered (hlimit n rfl) hzero
      cases ordered <;>
        simpa [windowOpening, windowClosing, windowValues, pagingClauses] using hread
    · have hread := readPaging_fetchNext ordered (hlimit n rfl) (hoffset m rfl)
      cases ordered <;>
        simpa [windowOpening, windowClosing, windowValues, pagingClauses] using hread
  | rowNum =>
    rcases offset with _ | m
    · rcases limit with _ | n
      · exact readPaging_nil
      · simpa [windowOpening, windowClosing, windowValues, pagingClauses, windowEnd] using
          readPaging_rownum (hfits n rfl)
    · have hstart : m.toNat < 0x8000_0000_0000_0000 :=
        Nat.lt_of_le_of_lt (Nat.le_add_right _ _) hfits
      simpa [windowOpening, windowClosing, windowValues, pagingClauses] using
        readPaging_numbered hfits hstart

end Fragment

/-! ### The rows of a window -/

/-- The rows after `offset`, at most `limit` of them. -/
def windowRows (limit offset : Option UInt64) (rows : List ρ) : List ρ :=
  let rest := rows.drop ((offset.map UInt64.toNat).getD 0)
  match limit with
  | none => rest
  | some n => rest.take n.toNat

/-- The rows that are numbered above a bound are those after as many rows. -/
theorem map_fst_filter_zipIdx (rows : List ρ) (start bound : Nat) :
    ((rows.zipIdx (start + 1)).filter fun row => bound < row.2).map Prod.fst =
      rows.drop (bound - start) := by
  induction rows generalizing start with
  | nil => simp
  | cons row rows ih =>
    rw [List.zipIdx_cons, List.filter_cons]
    by_cases hbound : bound < start + 1
    · have hstart : bound - start = 0 := by omega
      have hnext : bound - (start + 1) = 0 := by omega
      simp [hbound, hstart, ih, hnext]
    · obtain ⟨k, hk⟩ : ∃ k, bound - start = k + 1 := ⟨bound - start - 1, by omega⟩
      have hnext : bound - (start + 1) = k := by omega
      simp [hbound, hk, ih, hnext]

namespace PagingClause

section Apply

variable (n : Nat) (p : Paged ρ)

@[simp] theorem apply_limit : limit.apply (n : Int) p = { p with keep := some n } := by
  have hn : ¬ (n : Int) < 0 := by omega
  simp [apply, hn]

@[simp] theorem apply_limit_all : limit.apply (-1) p = { p with keep := none } := rfl

@[simp] theorem apply_offset : offset.apply (n : Int) p = { p with skip := n } := rfl

@[simp] theorem apply_offsetRows : offsetRows.apply (n : Int) p = { p with skip := n } := rfl

@[simp] theorem apply_fetchNext : fetchNext.apply (n : Int) p = { p with keep := some n } := rfl

@[simp] theorem apply_rownum : rownum.apply (n : Int) p = { rows := p.picked.take n } := rfl

end Apply

theorem rows_numbered_above (rows : List ρ) (last bound : Nat) :
    PagingClause.rows [(.numbered, (last : Int)), (.above, (bound : Int))] rows =
      (rows.take last).drop bound := by
  have habove := map_fst_filter_zipIdx (rows.take last) 0 bound
  simpa [PagingClause.rows, apply, Paged.picked, Paged.ofRows, Paged.ofNumbered, List.filter_map,
    Function.comp_def] using habove

/-- **All strategies pick the same rows**, if there are not more of them than stand for all. -/
theorem rows_pagingClauses {strategy : LimitStrategy} {limit offset : Option UInt64}
    {rows : List ρ}
    (hrows : (rows.drop ((offset.map UInt64.toNat).getD 0)).length ≤ rowNumberCap) :
    PagingClause.rows (pagingClauses strategy limit offset) rows =
      windowRows limit offset rows := by
  cases strategy with
  | limitOffset requiresLimit =>
    cases requiresLimit <;> cases limit <;> cases offset <;>
      simp [PagingClause.rows, pagingClauses, windowRows, Paged.picked, Paged.ofRows,
        Function.comp_def]
  | offsetFetch =>
    cases limit with
    | none =>
      cases offset <;>
        simp [PagingClause.rows, pagingClauses, windowRows, Paged.picked, Paged.ofRows,
          Function.comp_def]
    | some n =>
      simp [PagingClause.rows, pagingClauses, windowRows, Paged.picked, Paged.ofRows,
        Function.comp_def]
  | rowNum =>
    rcases offset with _ | m
    · cases limit <;>
        simp [PagingClause.rows, pagingClauses, windowRows, Paged.picked, Paged.ofRows,
          Function.comp_def]
    · have hclauses : pagingClauses .rowNum limit (some m) =
          [(.numbered, (windowEnd limit m.toNat : Int)), (.above, (m.toNat : Int))] := by
        cases limit <;> rfl
      rw [hclauses, rows_numbered_above, List.drop_take, windowEnd, Nat.add_sub_cancel_left]
      cases limit with
      | none => exact List.take_of_length_le hrows
      | some n => rfl

end PagingClause

end PolySql

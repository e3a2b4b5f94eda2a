import Mathlib.Data.List.Sort
import PolySql.Proofs.Fragment.Changes
import PolySql.Proofs.Reading.Token
import PolySql.Proofs.Text.ByteOrder
import PolySql.Proofs.Values

/-!
# The matrix of an insert

The rows of an insert may name different columns, and in any order.  The columns of its statement
are all names in the rows, in increasing order (`Query.pairwise_insertColumns`), and wherever the
statement lists the columns of its table, these are listed (`Query.columnLists_insertBody`): once
where the rows stand in one list, and once for each row where every row is inserted on its own.  The
values are a full matrix over rows and columns (`Query.compile_insert_matrix`), so that the order of
the cells in a row does not count.
-/

namespace PolySql

/-! ### Columns in increasing order -/

theorem pairwise_insertDistinct {s : String} {texts : List String}
    (h : texts.Pairwise (· < ·)) : (insertDistinct s texts).Pairwise (· < ·) := by
  induction texts with
  | nil => simp [insertDistinct]
  | cons t rest ih =>
    obtain ⟨hhead, htail⟩ := List.pairwise_cons.mp h
    unfold insertDistinct
    split_ifs with hlt heq
    · refine List.pairwise_cons.mpr ⟨fun u hu => ?_, h⟩
      rcases List.mem_cons.mp hu with rfl | hu
      · exact hlt
      · exact hlt.trans (hhead u hu)
    · exact h
    · refine List.pairwise_cons.mpr ⟨fun u hu => ?_, ih htail⟩
      rcases mem_insertDistinct.mp hu with rfl | hu
      · exact lt_of_le_of_ne (not_lt.mp hlt) (Ne.symm heq)
      · exact hhead u hu

theorem pairwise_sortedDistinct (texts : List String) :
    (sortedDistinct texts).Pairwise (· < ·) := by
  induction texts with
  | nil => exact .nil
  | cons s rest ih =>
    rw [sortedDistinct, List.foldr_cons, ← sortedDistinct]
    exact pairwise_insertDistinct ih

/-- There is only one increasing list of given texts. -/
theorem sortedDistinct_congr {texts texts' : List String}
    (h : ∀ s, s ∈ texts ↔ s ∈ texts') : sortedDistinct texts = sortedDistinct texts' := by
  refine List.SortedLT.eq_of_mem_iff (pairwise_sortedDistinct texts).sortedLT
    (pairwise_sortedDistinct texts').sortedLT fun s => ?_
  rw [mem_sortedDistinct, mem_sortedDistinct, h]

/-! ### Cells -/

theorem cellValue_cons (cell : Cell) (row : List Cell) (column : String) :
    cellValue (cell :: row) column = if cell.1 = column then cell.2 else cellValue row column := by
  unfold cellValue
  rw [List.lookup_cons]
  by_cases h : cell.1 = column
  · simp [h]
  · have hne : (column == cell.1) = false := by simpa using Ne.symm h
    simp [h, hne]

/-- The first cell of the name counts. -/
theorem cellValue_eq_find? (row : List Cell) (column : String) :
    cellValue row column =
      ((row.find? fun cell => cell.1 = column).map Prod.snd).getD .null := by
  induction row with
  | nil => rfl
  | cons cell row ih =>
    rw [cellValue_cons, List.find?_cons, ih]
    by_cases h : cell.1 = column <;> simp [h]

/-- In a row that names no column twice, the order of the cells does not count. -/
theorem cellValue_perm {row row' : List Cell} (h : row.Perm row')
    (hnodup : (row.map Prod.fst).Nodup) (column : String) :
    cellValue row column = cellValue row' column := by
  induction h with
  | nil => rfl
  | cons cell _ ih =>
    rw [List.map_cons, List.nodup_cons] at hnodup
    rw [cellValue_cons, cellValue_cons, ih hnodup.2]
  | swap first second row =>
    have hne : second.1 ≠ first.1 := by
      simp only [List.map_cons, List.nodup_cons, List.mem_cons, not_or] at hnodup
      exact hnodup.1.1
    simp only [cellValue_cons]
    split_ifs with hsecond hfirst
    · exact absurd (hsecond.trans hfirst.symm) hne
    · rfl
    · rfl
    · rfl
  | trans hmiddle _ ih ih' =>
    have hmap := hmiddle.map Prod.fst
    exact (ih hnodup).trans (ih' (hmap.nodup_iff.mp hnodup))

/-! ### Column lists -/

/-- The names of a list, from its first one up to the parenthesis that closes it. -/
def listedNames : List Token → Option (List String)
  | .name name :: .own l :: rest =>
    if l = .sign ',' then (listedNames rest).map (name :: ·)
    else if l = .sign ')' then some [name]
    else none
  | _ => none

/-- A table and the list of columns behind it, where tokens start with `into` and a table. -/
def targetAt : List Token → Option (String × Option (List String))
  | .own l :: .name table :: .own m :: rest =>
    if l = .word "into" ∧ m = .sign '(' then some (table, listedNames rest) else none
  | _ => none

/-- The tables that rows go into, each with its list of columns, unless that is no list of names. -/
def columnLists : List Token → List (String × Option (List String))
  | [] => []
  | t :: rest => (targetAt (t :: rest)).toList ++ columnLists rest

theorem targetAt_of_ne {l : Lexeme} (h : l ≠ .word "into") (rest : List Token) :
    targetAt (.own l :: rest) = none := by
  unfold targetAt
  split
  · rename_i heq
    obtain ⟨hl, -⟩ := List.cons.inj heq
    obtain rfl := Token.own.inj hl
    exact if_neg fun hinto => h hinto.1
  · rfl

namespace Fragment

/-- Whether a fragment lists just these columns of tables, whatever follows it. -/
def Lists (f : Fragment) (ls : List (String × Option (List String))) : Prop :=
  ∀ rest, columnLists (f.tokens ++ rest) = ls ++ columnLists rest

theorem Lists.nil : Lists [] [] := fun _ => rfl

theorem Lists.append {f g : Fragment} {ls ms : List (String × Option (List String))}
    (hf : Lists f ls) (hg : Lists g ms) : Lists (f ++ g) (ls ++ ms) := by
  intro rest
  rw [tokens_append, List.append_assoc, hf, hg, List.append_assoc]

theorem columnLists_append_of_notMem {ts : List Token} (h : .own (.word "into") ∉ ts)
    (rest : List Token) : columnLists (ts ++ rest) = columnLists rest := by
  induction ts with
  | nil => rfl
  | cons t ts ih =>
    rw [List.mem_cons, not_or] at h
    have htarget : targetAt (t :: (ts ++ rest)) = none := by
      cases t with
      | own l => exact targetAt_of_ne (fun hl => h.1 (congrArg Token.own hl.symm)) _
      | _ => rfl
    rw [List.cons_append, columnLists, htarget, ih h.2]
    rfl

/-- Without the word `into` there are no lists. -/
theorem Lists.of_free {f : Fragment} (h : Free (.word "into") f) : Lists f [] :=
  columnLists_append_of_notMem h

theorem Lists.append_free {f g : Fragment} {ls : List (String × Option (List String))}
    (hf : Lists f ls) (hg : Free (.word "into") g) : Lists (f ++ g) ls := by
  simpa using hf.append (.of_free hg)

theorem Lists.eq {f : Fragment} {ls : List (String × Option (List String))} (h : Lists f ls) :
    columnLists f.tokens = ls := by
  simpa [columnLists] using h []

theorem Lists.flatten {fs : List Fragment} {l : String × Option (List String)}
    (h : ∀ f ∈ fs, Lists f [l]) : Lists fs.flatten (List.replicate fs.length l) := by
  induction fs with
  | nil => exact .nil
  | cons f fs ih =>
    obtain ⟨hf, hfs⟩ := List.forall_mem_cons.mp h
    exact hf.append (ih hfs)

theorem listedNames_identList {columns : List String} (h : columns ≠ []) (rest : List Token) :
    listedNames ((identList columns).tokens ++ .own (.sign ')') :: rest) = some columns := by
  induction columns with
  | nil => exact absurd rfl h
  | cons column columns ih =>
    cases columns with
    | nil => rfl
    | cons next columns =>
      have hlist : identList (column :: next :: columns) =
          .ident column :: .text ", " :: identList (next :: columns) :=
        joined_cons_cons _ _ _ _
      have hcomma : (Piece.text ", ").tokens = [.own (.sign ',')] := rfl
      rw [hlist, tokens_ident_cons, tokens_cons, hcomma, List.cons_append, List.append_assoc,
        List.singleton_append, listedNames, if_pos rfl, ih (List.cons_ne_nil _ _)]
      rfl

theorem free_insertTarget (table : String) (columns : List String) :
    Free (.word "into") (insertTarget table columns) := by
  have hlist : Free (.word "into") (identList columns) := by
    refine .joined ?_ (by decide)
    intro f hf
    obtain ⟨column, -, rfl⟩ := List.mem_map.mp hf
    exact .ident_cons column .nil
  have hopening : Free (.word "into") [.ident table, .text " ("] :=
    .ident_cons table (.text_cons (by decide) .nil)
  exact (hopening.append hlist).append (.text_cons (by decide) .nil)

theorem targetAt_insertTarget (table : String) {columns : List String} (h : columns ≠ [])
    (rest : List Token) :
    targetAt (.own (.word "into") :: ((insertTarget table columns).tokens ++ rest)) =
      some (table, some columns) := by
  have htokens : (insertTarget table columns).tokens =
      .name table :: .own (.sign '(') :: ((identList columns).tokens ++ [.own (.sign ')')]) := by
    rw [insertTarget, tokens_append, tokens_append]
    rfl
  rw [htokens, List.cons_append, List.cons_append, targetAt, if_pos ⟨rfl, rfl⟩, List.append_assoc]
  exact congrArg (fun names => some (table, names)) (listedNames_identList h rest)

/-- The columns of an insert are listed behind its table. -/
theorem lists_insertTarget (table : String) {columns : List String} (h : columns ≠ [])
    (words : String) (before : List Lexeme)
    (hwords : Lexeme.ofPlain [] words.toList = before ++ [.word "into"])
    (hbefore : .word "into" ∉ before) :
    Lists (.text words :: insertTarget table columns) [(table, some columns)] := by
  intro rest
  have hfree : .own (.word "into") ∉ before.map Token.own := by
    intro hmem
    obtain ⟨l, hl, hinto⟩ := List.mem_map.mp hmem
    exact hbefore (Token.own.inj hinto ▸ hl)
  rw [tokens_cons, Piece.tokens, hwords, List.map_append, List.append_assoc, List.append_assoc,
    columnLists_append_of_notMem hfree]
  change columnLists (.own (.word "into") :: ((insertTarget table columns).tokens ++ rest)) = _
  rw [columnLists, targetAt_insertTarget table h, Lists.of_free (free_insertTarget table columns)]
  rfl

/-- A slot for a row id stands behind `into` as well, but it is no table. -/
theorem lists_rowIdSlot (columns : List String) (ordinal : Nat) :
    Lists (rowIdSlot columns ordinal).1 [] := fun _ => rfl

theorem free_rowValues (columns : List String) (row : List Cell) :
    Free (.word "into") (rowValues columns row) := by
  refine .joined ?_ (by decide)
  intro f hf
  obtain ⟨v, -, rfl⟩ := List.mem_map.mp hf
  exact .bound_cons _ .nil

theorem free_output (d : Dialect) (returning : Option (List String)) :
    Free (.word "into") (output d "inserted" returning) := by
  unfold output
  split
  · refine .text_cons (by decide) (.joined ?_ (by decide))
    intro f hf
    obtain ⟨column, -, rfl⟩ := List.mem_map.mp hf
    exact .text_cons (by decide) (.ident_cons column .nil)
  · exact .nil

theorem lists_trailingReturning (d : Dialect) (table : String)
    (returning : Option (List String)) :
    Lists (Draft.trailingReturning d table returning).fragment [] := by
  unfold Draft.trailingReturning
  cases returning with
  | none => exact .nil
  | some columns =>
    cases d.returningStrategy with
    | native =>
      refine .of_free (.text_cons (by decide) ?_)
      exact free_selectList _ _ (by decide) (by decide) (by decide)
    | output => exact .nil
    | refetch => exact lists_rowIdSlot columns 0

/-! ### The three ways of inserting rows -/

section Ways

variable (table : String) {columns : List String}

/-- A row of its own, behind the columns. -/
theorem lists_insertRow (h : columns ≠ []) (words : String) (before : List Lexeme)
    (hwords : Lexeme.ofPlain [] words.toList = before ++ [.word "into"])
    (hbefore : .word "into" ∉ before) (row : List Cell) :
    Lists (.text words :: insertTarget table columns ++ [.text " values ("] ++
      rowValues columns row ++ [.text ")"]) [(table, some columns)] := by
  have hopening : Free (.word "into") [.text " values ("] := .text_cons (by decide) .nil
  have hclosing : Free (.word "into") [.text ")"] := .text_cons (by decide) .nil
  have htarget := lists_insertTarget table h words before hwords hbefore
  exact ((htarget.append_free hopening).append_free (free_rowValues columns row)).append_free
    hclosing

theorem lists_insertBlock (h : columns ≠ []) (d : Dialect) (rows : List (List Cell))
    (returning : List String) :
    Lists (Draft.insertBlock d table columns rows returning).fragment
      (List.replicate rows.length (table, some columns)) := by
  have hrow : ∀ f ∈ rows.zipIdx.map fun numbered =>
      (insertWithSlot table columns numbered.1 returning numbered.2).1,
      Lists f [(table, some columns)] := by
    intro f hf
    obtain ⟨⟨row, ordinal⟩, -, rfl⟩ := List.mem_map.mp hf
    have hrow := lists_insertRow table h " insert into " [.word "insert"] rfl (by decide) row
    have hinsert := hrow.append (lists_rowIdSlot returning ordinal)
    exact hinsert.append_free (.text_cons (by decide) .nil)
  have hbegin : Lists [.text "begin"] [] := .of_free (.text_cons (by decide) .nil)
  have hblock := (hbegin.append (Lists.flatten hrow)).append_free
    (.text_cons (by decide) .nil : Free (.word "into") [.text " end;"])
  rw [Draft.fragment_insertBlock, List.flatMap_def]
  simpa using hblock

theorem lists_insertAll (h : columns ≠ []) (rows : List (List Cell)) :
    Lists (insertAll table columns rows) (List.replicate rows.length (table, some columns)) := by
  have hrow : ∀ f ∈ rows.map fun row =>
      .text " into " :: insertTarget table columns ++ [.text " values ("] ++
        rowValues columns row ++ [.text ")"], Lists f [(table, some columns)] := by
    intro f hf
    obtain ⟨row, -, rfl⟩ := List.mem_map.mp hf
    exact lists_insertRow table h " into " [] rfl (by decide) row
  have hbegin : Lists [.text "insert all"] [] := .of_free (.text_cons (by decide) .nil)
  have hall := (hbegin.append (Lists.flatten hrow)).append_free
    (.text_cons (by decide) .nil : Free (.word "into") [.text " select 1 from dual"])
  simpa [insertAll, List.flatMap_def] using hall

theorem lists_insertRows (h : columns ≠ []) (d : Dialect) (rows : List (List Cell))
    (returning : Option (List String)) :
    Lists (Draft.insertRows d table columns rows returning).fragment
      [(table, some columns)] := by
  have hvalues : Free (.word "into")
      (joined ", " (rows.map fun row => wrapped "(" ")" (rowValues columns row))) := by
    refine .joined ?_ (by decide)
    intro f hf
    obtain ⟨row, -, rfl⟩ := List.mem_map.mp hf
    exact .text_cons (by decide)
      ((free_rowValues columns row).append (.text_cons (by decide) .nil))
  have htarget := lists_insertTarget table h "insert into " [.word "insert"] rfl (by decide)
  have hrows := ((htarget.append_free (free_output d returning)).append_free
    (.text_cons (by decide) .nil : Free (.word "into") [.text " values "])).append_free hvalues
  simpa [Draft.insertRows] using hrows.append (lists_trailingReturning d table returning)

end Ways

end Fragment

namespace Query

/-- The number of inserts that the statement of an insert is made of. -/
def insertCount (d : Dialect) (q : Query) : Nat :=
  if d.returningStrategy = .refetch ∧ 1 < q.rows.length then q.rows.length else 1

/-- Every insert in a statement lists all columns. -/
theorem columnLists_insertBody (d : Dialect) {q : Query} (h : q.insertColumns ≠ []) :
    columnLists (q.insertBody d).fragment.tokens =
      List.replicate (q.insertCount d) (q.table, some q.insertColumns) := by
  unfold insertBody insertCount
  split_ifs
  · split
    · exact (Fragment.lists_insertBlock q.table h d q.rows _).eq
    · exact (Fragment.lists_insertAll q.table h q.rows).eq
  · exact (Fragment.lists_insertRows q.table h d q.rows _).eq

end Query

/-! ### Cells in another order -/

theorem perm_names {rows rows' : List (List Cell)} (h : List.Forall₂ List.Perm rows rows') :
    (rows.flatMap fun row => row.map Prod.fst).Perm (rows'.flatMap fun row => row.map Prod.fst) := by
  induction h with
  | nil => exact .nil
  | cons hrow _ ih => exact (hrow.map Prod.fst).append ih

namespace Fragment

theorem rowValues_perm {row row' : List Cell} (h : row.Perm row')
    (hnodup : (row.map Prod.fst).Nodup) (columns : List String) :
    rowValues columns row = rowValues columns row' := by
  unfold rowValues
  rw [List.map_congr_left fun column _ => cellValue_perm h hnodup column]

theorem map_rowValues_congr {rows rows' : List (List Cell)} (h : List.Forall₂ List.Perm rows rows')
    (hnodup : ∀ row ∈ rows, (row.map Prod.fst).Nodup) (columns : List String) :
    rows.map (rowValues columns) = rows'.map (rowValues columns) := by
  induction h with
  | nil => rfl
  | cons hrow _ ih =>
    obtain ⟨hhead, htail⟩ := List.forall_mem_cons.mp hnodup
    rw [List.map_cons, List.map_cons, rowValues_perm hrow hhead, ih htail]

/-- Of a row an insert has its list of values alone. -/
theorem map_insertWithSlot (table : String) (columns : List String) (rows : List (List Cell))
    (returning : List String) :
    (rows.zipIdx.map fun (row, ordinal) => insertWithSlot table columns row returning ordinal) =
      (rows.map (rowValues columns)).zipIdx.map fun (values, ordinal) =>
        (.text " insert into " :: insertTarget table columns ++ [.text " values ("] ++
          values ++ [.text ")"] ++ (rowIdSlot returning ordinal).1 ++ [.text ";"],
          (rowIdSlot returning ordinal).2) := by
  rw [List.zipIdx_map, List.map_map]
  rfl

theorem insertAll_eq (table : String) (columns : List String) (rows : List (List Cell)) :
    insertAll table columns rows =
      .text "insert all" ::
        (rows.map (rowValues columns)).flatMap (fun values =>
          .text " into " :: insertTarget table columns ++ [.text " values ("] ++ values ++
            [.text ")"]) ++
        [.text " select 1 from dual"] := by
  rw [insertAll, List.flatMap_map]

theorem insertRows_eq (d : Dialect) (table : String) (columns : List String)
    (rows : List (List Cell)) (returning : Option (List String)) :
    Draft.insertRows d table columns rows returning =
      (Draft.trailingReturning d table returning).after
        (.text "insert into " :: insertTarget table columns ++ output d "inserted" returning ++
          [.text " values "] ++
          joined ", " ((rows.map (rowValues columns)).map (wrapped "(" ")"))) := by
  rw [Draft.insertRows, List.map_map]
  rfl

end Fragment

namespace Query

/-- A query with other rows. -/
def withRows (q : Query) (rows : List (List Cell)) : Query :=
  { q with rows }

variable {q : Query} {rows : List (List Cell)}

/-- Rows with the same cells, each in any order, name the same columns. -/
theorem insertColumns_withRows (h : List.Forall₂ List.Perm q.rows rows) :
    (q.withRows rows).insertColumns = q.insertColumns :=
  sortedDistinct_congr fun _ => (perm_names h).mem_iff.symm

theorem insertBody_withRows (d : Dialect) (h : List.Forall₂ List.Perm q.rows rows)
    (hnodup : ∀ row ∈ q.rows, (row.map Prod.fst).Nodup) :
    (q.withRows rows).insertBody d = q.insertBody d := by
  have hrows : (q.withRows rows).rows = rows := rfl
  have htable : (q.withRows rows).table = q.table := rfl
  have hreturning : (q.withRows rows).returningColumns? = q.returningColumns? := rfl
  have hvalues := Fragment.map_rowValues_congr h hnodup q.insertColumns
  unfold insertBody Draft.insertBlock
  simp only [insertColumns_withRows h, hrows, htable, hreturning, Fragment.map_insertWithSlot,
    Fragment.insertAll_eq, Fragment.insertRows_eq, hvalues, h.length_eq]

theorem draft_of_insert (hmethod : q.method = .insert) (d : Dialect) :
    q.draft d =
      if Text.isAllBlank q.table then .error .noTable
      else if q.rows = [] then .error .insertWithoutRows
      else if q.insertColumns = [] then .error .insertWithoutColumns
      else .ok (q.insertBody d) := by
  unfold draft insertDraft
  rw [hmethod]
  simp only [List.isEmpty_iff]

/-- **The order of the cells in a row does not count**, if no row names a column twice. -/
theorem compile_withRows (hmethod : q.method = .insert) (d : Dialect) (quoting : Bool)
    (h : List.Forall₂ List.Perm q.rows rows)
    (hnodup : ∀ row ∈ q.rows, (row.map Prod.fst).Nodup) :
    (q.withRows rows).compile d quoting = q.compile d quoting := by
  have hempty : rows = [] ↔ q.rows = [] := by
    rw [← List.length_eq_zero_iff, ← h.length_eq, List.length_eq_zero_iff]
  have hdraft : (q.withRows rows).draft d = q.draft d := by
    rw [draft_of_insert hmethod, draft_of_insert (q := q.withRows rows) hmethod,
      insertColumns_withRows h, insertBody_withRows d h hnodup]
    simp only [withRows, hempty]
  rw [compile_eq, compile_eq, hdraft]
  rfl

/-! ### The matrix -/

/-- The names in the rows of an insert, each once and in the order of their bytes. -/
structure Columns (q : Query) (columns : List String) : Prop where
  increasing : columns.Pairwise fun s t => utf8Bytes s < utf8Bytes t
  mem_iff : ∀ name, name ∈ columns ↔ ∃ row ∈ q.rows, ∃ cell ∈ row, cell.1 = name

/-- What a statement, made of the fragment `f`, has of the columns and rows of an insert: every
column list is that of the columns, and there is a value for each column of each row, that of the
first cell of the name or null. -/
structure Matrix (d : Dialect) (q : Query) (columns : List String) (f : Fragment) (s : Statement) :
    Prop where
  lists : columnLists f.tokens = List.replicate (q.insertCount d) (q.table, some columns)
  values : s.values = q.rows.flatMap fun row => columns.map fun column =>
    ((row.find? fun cell => cell.1 = column).map Prod.snd).getD .null
  length : s.values.length = q.rows.length * columns.length

theorem columns_insertColumns (q : Query) : q.Columns q.insertColumns where
  increasing := (pairwise_sortedDistinct _).imp String.lt_iff_bytes_lt.mp
  mem_iff name := by
    rw [insertColumns, mem_sortedDistinct]
    simp only [List.mem_flatMap, List.mem_map]

theorem insertColumns_ne_nil (h : ∃ row ∈ q.rows, row ≠ []) : q.insertColumns ≠ [] := by
  obtain ⟨row, hrow, hcells⟩ := h
  obtain ⟨cell, hcell⟩ := List.exists_mem_of_ne_nil row hcells
  exact List.ne_nil_of_mem ((columns_insertColumns q).mem_iff cell.1 |>.mpr ⟨row, hrow, cell, hcell, rfl⟩)

theorem matrix_insertColumns {d : Dialect} {quoting : Bool} {s : Statement}
    (hmethod : q.method = .insert) (hcolumns : q.insertColumns ≠ [])
    (h : q.compile d quoting = .ok s) :
    q.Matrix d q.insertColumns (q.insertBody d).fragment s where
  lists := columnLists_insertBody d hcolumns
  values := by
    rw [values_of_compile h, clauseValues, hmethod]
    exact List.flatMap_congr fun row _ =>
      List.map_congr_left fun column _ => cellValue_eq_find? row column
  length := by
    rw [values_of_compile h, clauseValues, hmethod]
    simp [List.length_flatMap]

/-- **An insert binds a full matrix.**  If some row names a column, the statement of an insert lists
the distinct names of all rows in increasing order, and binds for each row, in the order of the
rows, a value for each column, in the order of the columns: that of the first cell of the name in
the row, or null.  Only an insert without a table has no statement.  So the order of the cells
inside of rows makes no difference, if no row names a column twice. -/
theorem compile_insert_matrix (d : Dialect) (quoting : Bool) (q : Query)
    (hmethod : q.method = .insert) (hnamed : ∃ row ∈ q.rows, row ≠ []) :
    (∃ columns, q.Columns columns ∧
      if Text.isAllBlank q.table then q.compile d quoting = .error .noTable
      else ∃ f s, q.fragment d = .ok f ∧ q.compile d quoting = .ok s ∧
        s.sql = Placeholder.position d.placeholderStyle (f.neutral (q.writer d quoting)) ∧
        q.Matrix d columns f s) ∧
    ∀ rows, List.Forall₂ List.Perm q.rows rows →
      (∀ row ∈ q.rows, (row.map Prod.fst).Nodup) →
      (q.withRows rows).compile d quoting = q.compile d quoting := by
  have hcolumns := insertColumns_ne_nil hnamed
  have hrows : q.rows ≠ [] := by
    obtain ⟨row, hrow, -⟩ := hnamed
    exact List.ne_nil_of_mem hrow
  have hdraft := draft_of_insert hmethod d
  rw [if_neg hrows, if_neg hcolumns] at hdraft
  refine ⟨⟨q.insertColumns, columns_insertColumns q, ?_⟩,
    fun rows => compile_withRows hmethod d quoting⟩
  split_ifs at hdraft ⊢ with hblank
  · rw [compile_eq, hdraft]
    rfl
  · have hcompile : q.compile d quoting = .ok _ := compile_of_draft hdraft
    exact ⟨_, _, fragment_of_draft hdraft, hcompile, rfl,
      matrix_insertColumns hmethod hcolumns hcompile⟩

/-- Three uneven rows, one of them empty. -/
def insertRagged : Query :=
  insert "items" [[("b", .int 1), ("a", .int 2)], [], [("é", .text "x"), ("a", .null)]]

/-- The rows are inserted all at once, and the columns listed for each of them. -/
theorem compile_insert_matrix_ragged :
    insertRagged.method = .insert ∧ (∃ row ∈ insertRagged.rows, row ≠ []) ∧
      ∃ columns f s, insertRagged.Columns columns ∧ insertRagged.fragment .oracle = .ok f ∧
        insertRagged.compile .oracle true = .ok s ∧ insertRagged.Matrix .oracle columns f s ∧
        s.values =
          [.int 2, .int 1, .null, .null, .null, .null, .null, .null, .text "x"] ∧
        (insertRagged.withRows
            [[("a", .int 2), ("b", .int 1)], [], [("é", .text "x"), ("a", .null)]]).compile
          .oracle true = .ok s := by
  have hnamed : ∃ row ∈ insertRagged.rows, row ≠ [] :=
    ⟨_, List.mem_cons_self, List.cons_ne_nil _ _⟩
  obtain ⟨⟨columns, hcolumns, hstatement⟩, hperm⟩ :=
    compile_insert_matrix .oracle true insertRagged rfl hnamed
  rw [if_neg (by decide)] at hstatement
  obtain ⟨f, s, hf, hs, -, hmatrix⟩ := hstatement
  have hvalues : s.values =
      [.int 2, .int 1, .null, .null, .null, .null, .null, .null, .text "x"] := by
    obtain rfl := Except.ok.inj ((compile_of_draft rfl).symm.trans hs)
    rfl
  have hswap := hperm [[("a", .int 2), ("b", .int 1)], [], [("é", .text "x"), ("a", .null)]]
    (.cons (.swap _ _ _) (.cons .nil (.cons (.refl _) .nil)))
    (by simp [insertRagged, insert])
  exact ⟨rfl, hnamed, columns, f, s, hcolumns, hf, hs, hmatrix, hvalues, hswap.trans hs⟩

end Query

end PolySql

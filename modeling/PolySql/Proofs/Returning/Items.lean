import PolySql.Proofs.Reading.Clauses
import PolySql.Proofs.Returning

/-!
# The columns that are handed back

A statement names the columns that it hands back in one of three places: in a clause before its
values or conditions, in a list at its end, or in the select list of a refetch
(`Query.returnsItems_statementOf`).  The list at the end and the refetch take each of them for an
item of a select list, which is trimmed and may have an alias; the clause takes it for a name as it
stands.  So the three name the same columns only where no text has blanks around it or an alias
(`Query.compile_returnedItems`).
-/

namespace PolySql

/-! ### Items -/

/-- Dialects that write names and select items alike. -/
structure Dialect.WritesLike (d e : Dialect) : Prop where
  openQuote : d.openQuote = e.openQuote
  closeQuote : d.closeQuote = e.closeQuote
  aliasStyle : d.aliasStyle = e.aliasStyle

/-- A column to hand back: a name in the clause before the values or conditions, and an item of a
select list at the end and in a refetch. -/
def Dialect.returnedItem (d : Dialect) (column : String) : Fragment :=
  match d.returningStrategy with
  | .output => [.ident column]
  | .native | .refetch => Fragment.selectItem d.aliasStyle column

/-- A column to hand back as text. -/
def Writer.returnedItem (w : Writer) (column : String) : String :=
  (w.dialect.returnedItem column).neutral w

/-- The query that changes the same rows and hands nothing back. -/
def Query.withoutReturning (q : Query) : Query :=
  { q with returning := none }

/-- The table under whose name a statement hands rows back before its values or conditions. -/
def Query.pseudoTable (q : Query) : String :=
  if q.method = .delete then "deleted" else "inserted"

namespace Writer

variable {w : Writer}

theorem returnedItem_of_output (h : w.dialect.returningStrategy = .output) (column : String) :
    w.returnedItem column = w.identifier column := by
  rw [returnedItem, Dialect.returnedItem, h]
  exact w.neutral_ident column

theorem returnedItem_of_ne_output (h : w.dialect.returningStrategy ≠ .output) (column : String) :
    w.returnedItem column = w.selectItem column := by
  rw [returnedItem, Dialect.returnedItem, selectItem]
  cases hstrategy : w.dialect.returningStrategy with
  | output => exact absurd hstrategy h
  | native => rfl
  | refetch => rfl

/-- How names and select items are written does not depend on anything else of a dialect. -/
theorem identifier_congr {w v : Writer} (h : w.dialect.WritesLike v.dialect)
    (hquoting : w.quoting = v.quoting) : w.identifier = v.identifier := by
  have hquoteSegment : w.dialect.quoteSegment = v.dialect.quoteSegment := by
    funext segment
    rw [Dialect.quoteSegment, Dialect.quoteSegment, h.openQuote, h.closeQuote]
    have hdoubled : w.dialect.doubled segment = v.dialect.doubled segment := by
      rw [Dialect.doubled, Dialect.doubled, h.closeQuote]
    rw [hdoubled]
  funext name
  rw [identifier, identifier, Dialect.quote, Dialect.quote, hquoteSegment, hquoting]

theorem selectItem_congr {w v : Writer} (h : w.dialect.WritesLike v.dialect)
    (hquoting : w.quoting = v.quoting) : w.selectItem = v.selectItem := by
  funext column
  cases hparts : aliasParts? column with
  | none =>
    rw [selectItem_of_no_alias hparts, selectItem_of_no_alias hparts, identifier_congr h hquoting]
  | some parts =>
    rw [selectItem_of_alias hparts, selectItem_of_alias hparts, identifier_congr h hquoting,
      withAlias, withAlias, h.aliasStyle]

end Writer

/-! ### Names and select items -/

/-- A quoted name has a dot between any two of its segments. -/
theorem Lexeme.length_ofName (name : String) :
    (ofName name).length + 1 = 2 * (Dialect.segments name).length := by
  have hsegment (segment : List Char) : (ofSegment segment).length = 1 := by
    unfold ofSegment
    split <;> rfl
  obtain ⟨segment, segments, hsegments⟩ :=
    List.exists_cons_of_ne_nil (Text.fields_ne_nil (· == '.') name.toList)
  rw [ofName, Dialect.segments, hsegments]
  clear hsegments
  induction segments generalizing segment with
  | nil => simp [hsegment]
  | cons next segments ih =>
    have hrest := ih next
    rw [List.map_cons, List.length_cons] at hrest
    rw [List.map_cons, List.map_cons, List.intercalate_cons_cons, List.length_append,
      List.length_append, hsegment, List.length_singleton, List.length_cons, List.length_cons]
    omega

theorem Lexeme.word_notMem_ofName (name s : String) : Lexeme.word s ∉ ofName name := by
  intro h
  rcases mem_ofName h with ⟨c, -, h⟩ | ⟨t, h⟩
  · exact Lexeme.noConfusion h
  · exact Lexeme.noConfusion h

theorem Dialect.scan_quote {d : Dialect} (hd : d.QuotesApart) (name : String) :
    scan d (d.quote name) = some (Lexeme.ofName name) := by
  have hlaid : Fragment.Laid (fun _ => True) (fun _ _ => False) [.ident name] := .single trivial
  have hscan := Fragment.scan_neutral hd hlaid
  rwa [Writer.neutral_ident, Writer.identifier, if_pos rfl, Fragment.lexemes_cons,
    Fragment.lexemes_nil, List.append_nil] at hscan

/-- A name is never written like a name with an alias.  Who knows the quotes finds a word between
the two, or no dot where each name has one between any two of its segments. -/
theorem Dialect.quote_ne_withAlias {d : Dialect} (hd : d.QuotesApart) (column expr name : String) :
    d.quote column ≠ Writer.withAlias ⟨d, true⟩ (d.quote expr) (d.quote name) := by
  intro h
  have hlast : Fragment.Laid (fun _ => True) (fun _ _ => False) [.ident name] := .single trivial
  have hexpr : Piece.Over (fun _ => True) (fun _ _ => False) (.ident expr) := trivial
  have hlaid := hlast.cons_separates hexpr d.aliasStyle.separates_separator
  have htext : Fragment.neutral ⟨d, true⟩
      [.ident expr, .text d.aliasStyle.separator, .ident name] = d.quote column := by
    rw [h, Fragment.neutral_ident_cons, Fragment.neutral_text_cons, Writer.neutral_ident,
      ← String.append_assoc]
    rfl
  have hscan := Fragment.scan_neutral hd hlaid
  rw [htext, scan_quote hd] at hscan
  have hlexemes : Lexeme.ofName column =
      Lexeme.ofName expr ++ (Piece.text d.aliasStyle.separator).lexemes ++ Lexeme.ofName name := by
    simpa [Piece.lexemes_ident] using hscan
  cases hstyle : d.aliasStyle with
  | asWord =>
    have hword : Lexeme.word "as" ∈ Lexeme.ofName column := by
      have has : (Piece.text AliasStyle.asWord.separator).lexemes = [.word "as"] := rfl
      rw [hlexemes, hstyle, has]
      simp
    exact Lexeme.word_notMem_ofName column "as" hword
  | space =>
    have hblank : (Piece.text AliasStyle.space.separator).lexemes = [] := rfl
    have hlength := congrArg List.length hlexemes
    rw [hstyle, hblank, List.append_nil, List.length_append] at hlength
    have hcolumn := Lexeme.length_ofName column
    have hexpr := Lexeme.length_ofName expr
    have hname := Lexeme.length_ofName name
    omega

/-- Whether a text to hand back is written in the same way as a name and as a select item. -/
theorem Writer.identifier_eq_selectItem_iff {w : Writer} (hd : w.dialect.QuotesApart)
    (hquoting : w.quoting = true) (column : String) :
    w.identifier column = w.selectItem column ↔
      aliasParts? column = none ∧ Text.trim column = column := by
  have hidentifier (name : String) : w.identifier name = w.dialect.quote name := by
    rw [identifier, if_pos hquoting]
  have hinjective : Function.Injective w.dialect.quote :=
    Dialect.quote_injective (by
      rintro hopen
      exact hd.openPlain (hopen ▸ rfl)) (by
      rintro hclose
      exact hd.closeSeparator (hclose ▸ rfl))
  cases hparts : aliasParts? column with
  | none =>
    rw [selectItem_of_no_alias hparts, hidentifier, hidentifier, hinjective.eq_iff, eq_comm,
      and_iff_right rfl]
  | some parts =>
    -- an alias is written as such, which no name is
    have hne : w.dialect.quote column ≠ w.selectItem column := by
      rw [selectItem_of_alias hparts, hidentifier, hidentifier]
      exact Dialect.quote_ne_withAlias hd column parts.1 parts.2
    simp [hidentifier, hne]

/-! ### Where items stand -/

/-- How the columns that a query hands back stand in its statement, written as the given items.
What stands around a list at the end, or around a clause before the values or conditions, is the
statement of the query when it hands nothing back. -/
structure Statement.ReturnsItems (w : Writer) (q : Query) (items : List String) (s : Statement) :
    Prop where
  native : w.dialect.returningStrategy = .native →
    ∃ plain, q.withoutReturning.fragment w.dialect = .ok plain ∧
      s.sql = Placeholder.position w.dialect.placeholderStyle
        (plain.neutral w ++ " returning " ++ String.intercalate ", " items)
  output : w.dialect.returningStrategy = .output →
    ∃ before after, q.withoutReturning.fragment w.dialect = .ok (before ++ after) ∧
      s.sql = Placeholder.position w.dialect.placeholderStyle
        (before.neutral w ++ " output " ++
          String.intercalate ", " (items.map fun item => q.pseudoTable ++ "." ++ item) ++
          after.neutral w)
  refetch : w.dialect.returningStrategy = .refetch →
    ∃ refetch, s.refetch = some refetch ∧
      refetch.sql = Placeholder.position w.dialect.placeholderStyle
        ("select " ++ String.intercalate ", " items ++ " from " ++ w.identifier q.table ++
          " where ROWID in (" ++ String.intercalate ", " (List.replicate s.slots.length "?") ++ ")")

namespace Fragment

@[simp] theorem output_none (d : Dialect) (pseudoTable : String) :
    output d pseudoTable none = [] := by
  unfold output
  split <;> simp_all

theorem neutral_joined (w : Writer) (separator : String) (fs : List Fragment) :
    neutral w (joined separator fs) = String.intercalate separator (fs.map (neutral w)) := by
  rw [← String.toList_inj, toList_neutral_joined, String.toList_intercalate, List.map_map]
  rfl

end Fragment

@[simp] theorem Draft.fragment_trailingReturning_none (d : Dialect) (table : String) :
    (trailingReturning d table none).fragment = [] := rfl

namespace Query

/-- A fragment is that of the query that hands nothing back, with one clause after some part of it,
or with a list at its end. -/
def Handing (d : Dialect) (q : Query) (plain : Except CompileError Fragment)
    (f : Fragment) : Prop :=
  ∃ before after, plain = .ok (before ++ after) ∧
    f = before ++ Fragment.output d q.pseudoTable q.returningColumns? ++ after ++
      (Draft.trailingReturning d q.table q.returningColumns?).fragment

variable {d : Dialect} {q : Query} {f : Fragment}

theorem returningColumns?_withoutReturning (q : Query) :
    q.withoutReturning.returningColumns? = none := rfl

theorem handing_insertFragment (hstrategy : d.returningStrategy ≠ .refetch)
    (hmethod : q.method = .insert) (h : q.insertFragment d = .ok f) :
    q.Handing d (q.withoutReturning.insertFragment d) f := by
  obtain ⟨hrows, hcolumns, rfl⟩ := insertFragment_eq_ok.mp h
  have hbody (r : Query) : r.insertBody d =
      .insertRows d r.table r.insertColumns r.rows r.returningColumns? := by
    rw [insertBody, if_neg fun h => hstrategy h.1]
  refine ⟨.text "insert into " :: Fragment.insertTarget q.table q.insertColumns,
    [.text " values "] ++ Fragment.joined ", "
      (q.rows.map fun row => Fragment.wrapped "(" ")" (Fragment.rowValues q.insertColumns row)),
    insertFragment_eq_ok.mpr ⟨hrows, hcolumns, ?_⟩, ?_⟩
  · rw [hbody, Draft.insertRows, returningColumns?_withoutReturning]
    simp [withoutReturning, insertColumns]
  · rw [hbody, Draft.insertRows, pseudoTable, if_neg (by simp [hmethod])]
    simp

theorem handing_updateFragment (hmethod : q.method ≠ .delete) (h : q.updateFragment d = .ok f) :
    q.Handing d (q.withoutReturning.updateFragment d) f := by
  obtain ⟨assignments, conditions, hassignments, hconditions, rfl⟩ := updateFragment_eq_ok.mp h
  refine ⟨[.text "update ", .ident q.table, .text " set "] ++ assignments,
    Fragment.whereClause conditions,
    updateFragment_eq_ok.mpr ⟨assignments, conditions, hassignments, hconditions, ?_⟩, ?_⟩
  · rw [returningColumns?_withoutReturning]
    simp [withoutReturning]
  · rw [pseudoTable, if_neg hmethod]

theorem handing_deleteFragment (hmethod : q.method = .delete) (h : q.deleteFragment d = .ok f) :
    q.Handing d (q.withoutReturning.deleteFragment d) f := by
  obtain ⟨-, conditions, hconditions, rfl⟩ := deleteFragment_eq_ok.mp h
  refine ⟨[.text "delete from ", .ident q.table], Fragment.whereClause conditions,
    deleteFragment_eq_ok.mpr ⟨?_, conditions, hconditions, ?_⟩, ?_⟩
  · rw [returningColumns?_withoutReturning]
    simp
  · rw [returningColumns?_withoutReturning]
    simp [withoutReturning]
  · rw [pseudoTable, if_pos hmethod]

theorem handing_fragment (hstrategy : d.returningStrategy ≠ .refetch) (hmethod : q.method.isChange)
    (h : q.fragment d = .ok f) : q.Handing d (q.withoutReturning.fragment d) f := by
  obtain ⟨hblank, h⟩ := fragment_eq_ok.mp h
  have htable : ¬ Text.isAllBlank q.withoutReturning.table := by simp [withoutReturning, hblank]
  have hsame : q.withoutReturning.method = q.method := rfl
  rw [fragment, draft, if_neg htable, hsame]
  cases hq : q.method with
  | insert =>
    rw [hq] at h
    exact handing_insertFragment hstrategy hq h
  | update =>
    rw [hq] at h
    exact handing_updateFragment (by simp [hq]) h
  | counter =>
    rw [hq] at h
    exact handing_updateFragment (by simp [hq]) h
  | delete =>
    rw [hq] at h
    exact handing_deleteFragment hq h
  | _ => simp [hq, Method.isChange] at hmethod

section Text

variable {w : Writer} {columns : List String}

theorem neutral_selectList (hstrategy : w.dialect.returningStrategy ≠ .output)
    (hne : columns ≠ []) :
    (Fragment.selectList w.dialect.aliasStyle columns).neutral w =
      String.intercalate ", " (columns.map w.returnedItem) := by
  have hitems : columns.map w.returnedItem =
      columns.map fun column => (Fragment.selectItem w.dialect.aliasStyle column).neutral w :=
    List.map_congr_left fun column _ => w.returnedItem_of_ne_output hstrategy column
  rw [Fragment.selectList, if_neg (by simpa using hne), Fragment.neutral_joined, List.map_map,
    hitems]
  rfl

theorem neutral_output (hstrategy : w.dialect.returningStrategy = .output) (pseudoTable : String) :
    (Fragment.output w.dialect pseudoTable (some columns)).neutral w =
      " output " ++ String.intercalate ", "
        ((columns.map w.returnedItem).map fun item => pseudoTable ++ "." ++ item) := by
  have hitems : (columns.map w.returnedItem).map (fun item => pseudoTable ++ "." ++ item) =
      columns.map fun column =>
        Fragment.neutral w [.text (pseudoTable ++ "."), .ident column] := by
    rw [List.map_map]
    refine List.map_congr_left fun column _ => ?_
    rw [Function.comp_apply, w.returnedItem_of_output hstrategy, Fragment.neutral_text_cons,
      w.neutral_ident]
  have hclause : Fragment.output w.dialect pseudoTable (some columns) = .text " output " ::
      Fragment.joined ", " (columns.map fun column =>
        [.text (pseudoTable ++ "."), .ident column]) := by
    unfold Fragment.output
    rw [hstrategy]
  rw [hitems, hclause, Fragment.neutral_text_cons, Fragment.neutral_joined, List.map_map]
  rfl

theorem neutral_refetchFragment (hstrategy : w.dialect.returningStrategy ≠ .output)
    (hne : columns ≠ []) (table : String) (count : Nat) :
    (refetchFragment w.dialect table columns count).neutral w =
      "select " ++ String.intercalate ", " (columns.map w.returnedItem) ++ " from " ++
        w.identifier table ++ " where ROWID in (" ++
        String.intercalate ", " (List.replicate count "?") ++ ")" := by
  have hmark : Fragment.neutral w [.text "?"] = "?" := by simp
  rw [refetchFragment]
  simp only [Fragment.neutral_append, Fragment.neutral_text_cons, Fragment.neutral_ident_cons,
    Fragment.neutral_nil, Fragment.neutral_joined, List.map_replicate, hmark,
    neutral_selectList hstrategy hne, String.append_empty, String.append_assoc]

/-- The columns that a statement hands back stand in it as items. -/
theorem returnsItems_statementOf (hmethod : q.method.isChange)
    (hreturning : q.returning = some columns) (hne : columns ≠ [])
    {draft : Draft} (hdraft : q.draft w.dialect = .ok draft) :
    (q.statementOf w draft).ReturnsItems w q (columns.map w.returnedItem) := by
  have h := fragment_of_draft hdraft
  have hcolumns : q.returningColumns? = some columns := by
    simp [returningColumns?, hreturning, hne]
  have hsql : (q.statementOf w draft).sql =
      Placeholder.position w.dialect.placeholderStyle (draft.fragment.neutral w) := rfl
  refine ⟨fun hstrategy => ?_, fun hstrategy => ?_, fun hstrategy => ?_⟩
  · obtain ⟨before, after, hplain, hf⟩ := handing_fragment (by simp [hstrategy]) hmethod h
    have hclause : Fragment.output w.dialect q.pseudoTable (some columns) = [] := by
      unfold Fragment.output
      rw [hstrategy]
    have htrailing : (Draft.trailingReturning w.dialect q.table (some columns)).fragment =
        .text " returning " :: Fragment.selectList w.dialect.aliasStyle columns := by
      rw [Draft.trailingReturning, hstrategy]
    refine ⟨before ++ after, hplain, ?_⟩
    rw [hsql, hf, hcolumns, hclause, htrailing, List.append_nil, Fragment.neutral_append,
      Fragment.neutral_text_cons, neutral_selectList (by simp [hstrategy]) hne, String.append_assoc]
  · obtain ⟨before, after, hplain, hf⟩ := handing_fragment (by simp [hstrategy]) hmethod h
    have htrailing : (Draft.trailingReturning w.dialect q.table (some columns)).fragment = [] := by
      rw [Draft.trailingReturning, hstrategy]
    refine ⟨before, after, hplain, ?_⟩
    rw [hsql, hf, hcolumns, htrailing, List.append_nil, Fragment.neutral_append,
      Fragment.neutral_append, neutral_output hstrategy, ← String.append_assoc]
  · have hreturns := returns_statementOf hdraft
    have hchange : q.method = .insert ∨ q.method = .update ∨ q.method = .counter := by
      cases hq : q.method with
      | delete =>
        -- there is no delete that hands rows back by their ids
        obtain ⟨-, hdelete⟩ := fragment_eq_ok.mp h
        rw [hq] at hdelete
        obtain ⟨hnone, -⟩ := deleteFragment_eq_ok.mp hdelete
        exact absurd ⟨hstrategy, by simp [hcolumns]⟩ hnone
      | _ => simp_all [Method.isChange]
    have hsent : (q.statementOf w draft).refetch.isSome :=
      hreturns.refetch_iff.mpr ⟨hstrategy, hchange, columns, hreturning, hne⟩
    obtain ⟨refetch, hrefetch⟩ := Option.isSome_iff_exists.mp hsent
    refine ⟨refetch, hrefetch, ?_⟩
    obtain ⟨-, rfl⟩ := (refetch_statementOf_eq_some_iff hdraft).mp hrefetch
    dsimp only
    rw [hreturning, Option.getD_some, neutral_refetchFragment (by simp [hstrategy]) hne]
    rfl

end Text

/-- **Three lists do not name the same columns.**  Between dialects that write names and select items
alike, the items of the list at the end and of the refetch are the same.  Those of the clause before
the values or conditions are, without the table before them, the same as these exactly if no text has
an alias or blanks around it; where nothing is quoted, exactly if each text is written as the select
item that it stands for. -/
theorem compile_returnedItems {d e : Dialect} {quoting : Bool} {q : Query} {columns : List String}
    {s t : Statement} (hd : d.QuotesApart) (halike : d.WritesLike e) (hmethod : q.method.isChange)
    (hreturning : q.returning = some columns) (hne : columns ≠ [])
    (hs : q.compile d quoting = .ok s) (ht : q.compile e quoting = .ok t) :
    let w := q.writer d quoting
    let v := q.writer e quoting
    s.ReturnsItems w q (columns.map w.returnedItem) ∧
      t.ReturnsItems v q (columns.map v.returnedItem) ∧
      ((d.returningStrategy = .output ↔ e.returningStrategy = .output) →
        columns.map w.returnedItem = columns.map v.returnedItem) ∧
      (d.returningStrategy = .output → e.returningStrategy ≠ .output →
        (w.quoting = true → (columns.map w.returnedItem = columns.map v.returnedItem ↔
          ∀ column ∈ columns, aliasParts? column = none ∧ Text.trim column = column)) ∧
        (w.quoting = false → (columns.map w.returnedItem = columns.map v.returnedItem ↔
          ∀ column ∈ columns, w.selectItem column = column))) := by
  intro w v
  obtain ⟨draft, hdraft, rfl⟩ := compile_eq_ok.mp hs
  obtain ⟨draft', hdraft', rfl⟩ := compile_eq_ok.mp ht
  have hidentifier : w.identifier = v.identifier := Writer.identifier_congr halike rfl
  have hselectItem : w.selectItem = v.selectItem := Writer.selectItem_congr halike rfl
  refine ⟨returnsItems_statementOf hmethod hreturning hne hdraft,
    returnsItems_statementOf hmethod hreturning hne hdraft', fun hstrategy => ?_, fun hout hlist => ?_⟩
  · refine List.map_congr_left fun column _ => ?_
    by_cases hout : d.returningStrategy = .output
    · rw [w.returnedItem_of_output hout, v.returnedItem_of_output (hstrategy.mp hout), hidentifier]
    · rw [w.returnedItem_of_ne_output hout,
        v.returnedItem_of_ne_output fun h => hout (hstrategy.mpr h), hselectItem]
  · have hitem (column : String) : w.returnedItem column = v.returnedItem column ↔
        w.identifier column = w.selectItem column := by
      rw [w.returnedItem_of_output hout, v.returnedItem_of_ne_output hlist, hselectItem]
    simp only [List.map_inj_left, hitem]
    refine ⟨fun hquoting => ?_, fun hquoting => ?_⟩
    · exact forall₂_congr fun column _ => Writer.identifier_eq_selectItem_iff hd hquoting column
    · refine forall₂_congr fun column _ => ?_
      rw [Writer.identifier, if_neg (by simp [hquoting]), eq_comm]

/-- An insert that hands a column back under another name. -/
def insertAliased : Query :=
  { Query.insertOne "users" [("name", .text "ann")] with returning := some ["id as key"] }

theorem compile_returnedItems_insertAliased :
    let native := { Dialect.mssql with returningStrategy := .native }
    ∃ s t, insertAliased.compile .mssql true = .ok s ∧ insertAliased.compile native true = .ok t ∧
      s.ReturnsItems ⟨.mssql, true⟩ insertAliased ["[id as key]"] ∧
      t.ReturnsItems ⟨native, true⟩ insertAliased ["[id] as [key]"] := by
  intro native
  obtain ⟨s, hs⟩ : ∃ s, insertAliased.compile .mssql true = .ok s :=
    ⟨_, compile_of_draft rfl⟩
  obtain ⟨t, ht⟩ : ∃ t, insertAliased.compile native true = .ok t :=
    ⟨_, compile_of_draft rfl⟩
  have hquotes : Dialect.mssql.QuotesApart := Engine.mssql.quotesApart
  have halike : Dialect.mssql.WritesLike native := ⟨rfl, rfl, rfl⟩
  have hreturning : insertAliased.returning = some ["id as key"] := rfl
  obtain ⟨hout, hlist, -, -⟩ :=
    compile_returnedItems hquotes halike rfl hreturning (by simp) hs ht
  have hname : Writer.returnedItem ⟨.mssql, true⟩ "id as key" = "[id as key]" := by
    decide +kernel
  have hitem : Writer.returnedItem ⟨native, true⟩ "id as key" = "[id] as [key]" := by
    decide +kernel
  refine ⟨s, t, hs, ht, ?_, ?_⟩
  · rw [← hname]
    exact hout
  · rw [← hitem]
    exact hlist

/-- An alias becomes a part of the name. -/
theorem not_returnedItems_eq :
    let native := { Dialect.mssql with returningStrategy := .native }
    ∃ s t, insertAliased.compile .mssql true = .ok s ∧ insertAliased.compile native true = .ok t ∧
      s.sql = "insert into [users] ([name]) output inserted.[id as key] values (@p1)" ∧
      t.sql = "insert into [users] ([name]) values (@p1) returning [id] as [key]" :=
  ⟨_, _, compile_of_draft rfl, compile_of_draft rfl, rfl, rfl⟩

end Query

end PolySql

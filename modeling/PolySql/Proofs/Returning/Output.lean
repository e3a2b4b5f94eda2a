import PolySql.Proofs.Client.Change
import PolySql.Proofs.Pluck
import PolySql.Proofs.Returning.Items

/-!
# What a change reports of its rows

A change that hands columns back is answered by one value of each row for a single column, and by
the rows themselves otherwise (`Output.Reports`).  Two things come between the rows and the answer.
A cap on the number of rows cuts those of a change too (`Statement.output_reports`).  And a single
text other than `*` stands for a single column even where the statement has all columns in its place
(`Query.output_of_wildcard`).
-/

namespace PolySql

/-! ### Capped rows -/

/-- An answer that reports every row: by one value of each, in order, for a single column by its
name, and by the whole result set for several columns or `*`. -/
structure Output.Reports (columns : List String) (set : ResultSet) (output : Output) : Prop where
  values : ∀ column, columns = [column] → column ≠ "*" →
    ∃ vs, output = .values vs ∧
      List.Forall₂ (fun (row : Row) v => row.values.head? = some v) set.rows vs
  rows : (∀ column, columns = [column] → column = "*") → output = .rows set

namespace ResultSet

/-- A cap changes nothing where it is large enough, and the number of rows where it is not. -/
theorem capped_eq_self {set : ResultSet} {maxRows : Option UInt64}
    (h : ∀ max ∈ maxRows, set.size ≤ max.toNat) : set.capped maxRows = set := by
  cases maxRows with
  | none => rfl
  | some max => rw [capped, truncate, List.take_of_length_le (h max rfl)]

theorem size_le_of_size_capped {set : ResultSet} {maxRows : Option UInt64}
    (h : (set.capped maxRows).size = set.size) : ∀ max ∈ maxRows, set.size ≤ max.toNat := by
  rintro max rfl
  rw [capped, size_truncate] at h
  omega

/-- Where every row has a value, the first values are one of each row. -/
theorem forall₂_head? {rows : List Row} (h : ∀ row ∈ rows, row.values ≠ []) :
    List.Forall₂ (fun (row : Row) v => row.values.head? = some v) rows
      (rows.filterMap fun row => row.values.head?) := by
  induction rows with
  | nil => exact .nil
  | cons row rows ih =>
    obtain ⟨hrow, hrest⟩ := List.forall_mem_cons.mp h
    obtain ⟨v, vs, hv⟩ := List.exists_cons_of_ne_nil hrow
    have hhead : row.values.head? = some v := by rw [hv, List.head?_cons]
    rw [List.filterMap_cons, hhead]
    exact .cons hhead (ih hrest)

end ResultSet

namespace Output.Reports

/-- An answer reports sets of one size only. -/
theorem size_eq {columns : List String} {set other : ResultSet} {output : Output}
    (h : output.Reports columns set) (h' : output.Reports columns other) :
    set.size = other.size := by
  by_cases hsingle : ∀ column, columns = [column] → column = "*"
  · obtain rfl : set = other := by
      have hboth := (h.rows hsingle).symm.trans (h'.rows hsingle)
      exact Output.rows.inj hboth
    rfl
  · push Not at hsingle
    obtain ⟨column, hcolumns, hstar⟩ := hsingle
    obtain ⟨vs, hvs, hall⟩ := h.values column hcolumns hstar
    obtain ⟨vs', hvs', hall'⟩ := h'.values column hcolumns hstar
    obtain rfl := Output.values.inj (hvs.symm.trans hvs')
    exact hall.length_eq.trans hall'.length_eq.symm

end Output.Reports

namespace Statement

/-- What a change answers of a result set reports all of it, where every row has a value. -/
theorem reports_changeOutput {columns : List String} (hne : columns ≠ []) {set : ResultSet}
    (h : ∀ row ∈ set.rows, row.values ≠ []) (rowsAffected : Nat) :
    (changeOutput (some columns) set rowsAffected).Reports columns set where
  values column hcolumns hstar := by
    rw [hcolumns, changeOutput, if_neg hstar]
    exact ⟨set.firstValues, rfl, ResultSet.forall₂_head? h⟩
  rows hstar := by
    cases columns with
    | nil => exact absurd rfl hne
    | cons column rest =>
      cases rest with
      | nil => rw [changeOutput, if_pos (hstar column rfl)]
      | cons next rest => rfl

/-- **The cap on the number of rows cuts changes too.**  A change that hands columns back reports
the rows that the cap leaves, and so reports every row exactly if the cap allows for all of them. -/
theorem output_reports {s : Statement} (hmethod : s.method.isChange) {columns : List String}
    (hreturning : s.returning = some columns) (hne : columns ≠ []) {response : Response}
    (hvalues : ∀ row ∈ response.resultSet.rows, row.values ≠ []) (maxRows : Option UInt64) :
    ∃ output, (Compiled.single s).output response none maxRows = .ok output ∧
      output.Reports columns (response.resultSet.capped maxRows) ∧
      (output.Reports columns response.resultSet ↔
        ∀ max ∈ maxRows, response.resultSet.size ≤ max.toNat) := by
  have hkept : ∀ row ∈ (response.resultSet.capped maxRows).rows, row.values ≠ [] :=
    fun row hrow => hvalues row (ResultSet.mem_of_mem_capped hrow)
  have hreports := reports_changeOutput hne hkept response.rowsAffected
  refine ⟨_, output_of_isChange hmethod response maxRows, ?_, ?_⟩
  · rw [hreturning]
    exact hreports
  · rw [hreturning]
    constructor
    · intro hall
      exact ResultSet.size_le_of_size_capped (hreports.size_eq hall)
    · intro hfits
      rwa [ResultSet.capped_eq_self hfits] at hreports ⊢

/-- An insert that hands the ids of its rows back. -/
def insertReturningIds : Statement :=
  { sql := "insert into users (name) values (?), (?) returning id"
    method := .insert
    returning := some ["id"] }

/-- The response to an insert of two rows. -/
def twoIds : Response :=
  { resultSet := ResultSet.ofRows ["id"] [[.int 1], [.int 2]], rowsAffected := 2 }

theorem output_reports_insertReturningIds :
    (∀ row ∈ twoIds.resultSet.rows, row.values ≠ []) ∧
      ∃ output, (Compiled.single insertReturningIds).output twoIds none (some 2) = .ok output ∧
        output.Reports ["id"] twoIds.resultSet := by
  have hvalues : ∀ row ∈ twoIds.resultSet.rows, row.values ≠ [] := by
    simp [twoIds]
  obtain ⟨output, houtput, -, hall⟩ := output_reports (s := insertReturningIds) rfl rfl (by simp)
    hvalues (some 2)
  refine ⟨hvalues, output, houtput, hall.mpr ?_⟩
  rintro max hmax
  obtain rfl := Option.some.inj hmax
  decide

/-- The second of two rows that have been written is not reported. -/
theorem not_output_reports :
    ∃ output, (Compiled.single insertReturningIds).output twoIds none (some 1) = .ok output ∧
      output = .values [.int 1] ∧ ¬ output.Reports ["id"] twoIds.resultSet := by
  refine ⟨_, rfl, rfl, fun hall => ?_⟩
  obtain ⟨vs, hvs, hrows⟩ := hall.values "id" rfl (by decide)
  obtain rfl := Output.values.inj hvs
  exact absurd hrows.length_eq (by decide)

end Statement

/-! ### Wildcards -/

/-- A name that stands for all columns, of everything or of one table. -/
def IsWildcard (name : String) : Prop :=
  name = "*" ∨ ∃ table, name = table ++ ".*"

/-- A part behind the last one of some. -/
theorem intercalate_append_singleton {α : Type} (separator : List α) {parts : List (List α)}
    (h : parts ≠ []) (last : List α) :
    separator.intercalate (parts ++ [last]) = separator.intercalate parts ++ separator ++ last := by
  induction parts with
  | nil => exact absurd rfl h
  | cons part parts ih =>
    cases parts with
    | nil =>
      rw [List.singleton_append, List.intercalate_cons_cons, List.intercalate_singleton,
        List.intercalate_singleton]
    | cons next parts =>
      have hrest := ih (List.cons_ne_nil next parts)
      rw [List.cons_append] at hrest
      rw [List.cons_append, List.cons_append, List.intercalate_cons_cons, hrest,
        List.intercalate_cons_cons]
      simp only [List.append_assoc]

theorem segments_wildcard (table : String) :
    Dialect.segments (table ++ ".*") = Dialect.segments table ++ [['*']] := by
  have hchars : (table ++ ".*").toList = table.toList ++ '.' :: ['*'] := by
    rw [String.toList_append]
    rfl
  rw [Dialect.segments, Dialect.segments, hchars, Text.fields_eq_splitOnP, Text.fields_eq_splitOnP,
    List.splitOnP_append_cons _ _ (by decide)]
  rfl

namespace Writer

theorem identifier_star (w : Writer) : w.identifier "*" = "*" := by
  rw [identifier]
  split
  · rfl
  · rfl

/-- The `*` behind the name of a table stays outside of the quotes. -/
theorem identifier_wildcard (w : Writer) (table : String) :
    w.identifier (table ++ ".*") = w.identifier table ++ ".*" := by
  rw [identifier, identifier]
  split
  · have hne : (Dialect.segments table).map w.dialect.quoteSegment ≠ [] := by
      rw [ne_eq, List.map_eq_nil_iff]
      exact Text.fields_ne_nil _ table.toList
    have hstar : [['*']].map w.dialect.quoteSegment = [['*']] := rfl
    rw [← String.toList_inj, String.toList_append, Dialect.quote, Dialect.quote,
      String.toList_ofList, String.toList_ofList, segments_wildcard, List.map_append, hstar,
      intercalate_append_singleton _ hne, List.append_assoc]
    rfl
  · rfl

/-- A wildcard is written with a `*` outside of all quotes. -/
theorem identifier_of_isWildcard (w : Writer) {name : String} (h : IsWildcard name) :
    w.identifier name = "*" ∨ ∃ table, w.identifier name = w.identifier table ++ ".*" := by
  rcases h with rfl | ⟨table, rfl⟩
  · exact .inl w.identifier_star
  · exact .inr ⟨table, w.identifier_wildcard table⟩

end Writer

/-- Only `*` itself is a wildcard without a dot. -/
theorem IsWildcard.eq_star_iff {name : String} (h : IsWildcard name) :
    name = "*" ↔ '.' ∉ name.toList := by
  rcases h with rfl | ⟨table, rfl⟩
  · exact ⟨fun _ => by decide, fun _ => rfl⟩
  · have hdot : '.' ∈ (table ++ ".*").toList := by simp
    constructor
    · intro hstar
      rw [hstar] at hdot
      exact absurd hdot (by decide)
    · intro hfree
      exact absurd hdot hfree

namespace Query

/-- **A wildcard is handed back whole only if it is a bare `*`.**  Where a change hands a single
wildcard back, its statement has a `*` in the place of the item, so that rows of any width come
back.  The answer has the rows only if the text of the request is `*` and nothing else.  It has one
value a row if there are blanks around the text or the name of a table before it. -/
theorem output_of_wildcard {d : Dialect} {quoting : Bool} {q : Query} {entry : String}
    {s : Statement} (hmethod : q.method.isChange) (hreturning : q.returning = some [entry])
    (hwildcard : IsWildcard (Text.trim entry)) (hs : q.compile d quoting = .ok s)
    (response : Response) (maxRows : Option UInt64) :
    let w := q.writer d quoting
    let kept := response.resultSet.capped maxRows
    s.ReturnsItems w q [w.returnedItem entry] ∧
      ((if d.returningStrategy = .output then Text.trim entry = entry
          else aliasParts? entry = none) →
        w.returnedItem entry = "*" ∨ ∃ table, w.returnedItem entry = w.identifier table ++ ".*") ∧
      (Compiled.single s).output response none maxRows =
        .ok (if entry = "*" then .rows kept else .values kept.firstValues) ∧
      (entry = "*" ↔ Text.trim entry = entry ∧ '.' ∉ entry.toList) := by
  intro w kept
  refine ⟨?_, fun hplain => ?_, ?_, ?_⟩
  · obtain ⟨draft, hdraft, rfl⟩ := compile_eq_ok.mp hs
    exact returnsItems_statementOf (w := w) hmethod hreturning (by simp) hdraft
  · have hitem : w.returnedItem entry = w.identifier (Text.trim entry) := by
      split_ifs at hplain with hstrategy
      · rw [w.returnedItem_of_output hstrategy, hplain]
      · rw [w.returnedItem_of_ne_output hstrategy, Writer.selectItem_of_no_alias hplain]
    rw [hitem]
    exact w.identifier_of_isWildcard hwildcard
  · rw [output_of_isChange hmethod hs, hreturning, Statement.changeOutput]
  · constructor
    · rintro rfl
      decide
    · rintro ⟨htrim, hdot⟩
      rw [htrim] at hwildcard
      exact hwildcard.eq_star_iff.mpr hdot

/-- An insert that hands all columns back, with the given text. -/
def insertReturning (entry : String) : Query :=
  { Query.insertOne "users" [("name", .text "ann")] with returning := some [entry] }

/-- The response to an insert of one row of two columns. -/
def idAndName : Response :=
  { resultSet := ResultSet.ofRows ["id", "name"] [[.int 1, .text "ann"]], rowsAffected := 1 }

theorem output_of_wildcard_padded :
    ∃ s, (insertReturning " * ").compile .postgres true = .ok s ∧
      s.ReturnsItems ⟨.postgres, true⟩ (insertReturning " * ") ["*"] ∧
      (Compiled.single s).output idAndName none none = .ok (.values [.int 1]) := by
  obtain ⟨s, hs⟩ : ∃ s, (insertReturning " * ").compile .postgres true = .ok s :=
    ⟨_, compile_of_draft rfl⟩
  have hwildcard : IsWildcard (Text.trim " * ") := .inl (by decide)
  obtain ⟨hitems, -, houtput, -⟩ := output_of_wildcard rfl rfl hwildcard hs idAndName none
  have hitem : Writer.returnedItem ⟨.postgres, true⟩ " * " = "*" := by decide +kernel
  refine ⟨s, hs, ?_, houtput⟩
  rw [← hitem]
  exact hitems

/-- All columns of a row were asked for and have come, and the answer has the first one. -/
theorem not_output_of_wildcard :
    ∃ s, (insertReturning "users.*").compile .postgres true = .ok s ∧
      IsWildcard (Text.trim "users.*") ∧
      s.sql = "insert into \"users\" (\"name\") values ($1) returning \"users\".*" ∧
      (Compiled.single s).output idAndName none none = .ok (.values [.int 1]) ∧
      idAndName.resultSet.rows.map Row.values = [[.int 1, .text "ann"]] := by
  exact ⟨_, compile_of_draft rfl, .inr ⟨"users", by decide⟩, rfl, rfl, rfl⟩

end Query

end PolySql

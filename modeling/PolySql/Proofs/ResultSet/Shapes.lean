import PolySql.Proofs.ResultSet.Lookup

/-!
# Shapes of answers

A cap on the number of rows leaves the first ones (`ResultSet.rows_capped`), and a statement that
reads answers with these: all of them, the first one, or a value of each (`Compiled.output_shapes`).
Rows that are cut off have no part in the answer, whatever they lack.  Statements on the schema and
sequences have no answer to shape, and a transform of the request's own sees the response uncut.
-/

namespace PolySql

/-! ### Capped rows -/

namespace ResultSet

/-- The first rows, as many as a cap allows. -/
def firstRows (rows : List Row) (maxRows : Option UInt64) : List Row :=
  maxRows.elim rows fun max => rows.take max.toNat

variable (set : ResultSet) (maxRows : Option UInt64)

theorem rows_capped : (set.capped maxRows).rows = firstRows set.rows maxRows := by
  cases maxRows with
  | none => rfl
  | some max => rfl

theorem columns_capped : (set.capped maxRows).columns = set.columns := by
  cases maxRows with
  | none => rfl
  | some max => rfl

theorem first?_capped : (set.capped maxRows).first? = (firstRows set.rows maxRows).head? := by
  rw [first?, rows_capped]

end ResultSet

/-! ### Statements that read -/

namespace Statement

variable {s : Statement} {response : Response} {maxRows : Option UInt64}

theorem output_of_select (h : s.method = .select) :
    s.output response maxRows = .ok (.rows (response.resultSet.capped maxRows)) := by
  simp only [output, h]

theorem output_of_first (h : s.method = .first) :
    s.output response maxRows =
      .ok (.row (ResultSet.firstRows response.resultSet.rows maxRows).head?) := by
  simp only [output, h, ResultSet.first?_capped]

theorem output_of_schema (h : s.method = .schema) : s.output response maxRows = .ok .unit := by
  simp only [output, h]

section Pluck

variable {column : String} (hmethod : s.method = .pluck) (hpluck : s.pluck = some column)

include hmethod hpluck

theorem output_of_pluck :
    s.output response maxRows =
      ((response.resultSet.capped maxRows).pluck column >>= fun values =>
        pure (.values values)) := by
  simp only [output, hmethod, hpluck]

/-- A column is plucked if every row that is left has a value in it. -/
theorem output_eq_ok_iff {o : Output} :
    s.output response maxRows = .ok o ↔ ∃ values, o = .values values ∧
      (ResultSet.firstRows response.resultSet.rows maxRows).map (·.get? column) =
        values.map some := by
  rw [output_of_pluck hmethod hpluck, bind_pure_eq_ok]
  refine exists_congr fun values => ?_
  rw [ResultSet.pluck_eq_ok_iff_map, ResultSet.rows_capped, and_comm]

theorem output_eq_error_iff {e : Error} :
    s.output response maxRows = .error e ↔
      e = .execution ("column " ++ column ++ " is not in the result set") ∧
        ∃ row ∈ ResultSet.firstRows response.resultSet.rows maxRows, row.get? column = none := by
  rw [output_of_pluck hmethod hpluck, bind_pure_eq_error, ResultSet.pluck_eq_error_iff,
    ResultSet.rows_capped, ResultSet.missingColumn]

/-- The rows that are left decide. -/
theorem output_congr {other : Response}
    (h : ResultSet.firstRows other.resultSet.rows maxRows =
      ResultSet.firstRows response.resultSet.rows maxRows) :
    s.output other maxRows = s.output response maxRows := by
  have hrows : (other.resultSet.capped maxRows).rows = (response.resultSet.capped maxRows).rows := by
    rw [ResultSet.rows_capped, ResultSet.rows_capped, h]
  rw [output_of_pluck hmethod hpluck, output_of_pluck hmethod hpluck, ResultSet.pluck_congr hrows]

end Pluck

end Statement

/-! ### All requests -/

/-- **Answers show the first rows.**  Without a transform, a select answers with the rows that the
cap leaves, under the names of the response, and a first with the first of them, if there is one.  A
pluck answers with the value in its column of each of them.  It fails exactly if one of them has
none, and what the cap cuts off does not matter.  A statement on the schema answers with nothing, and
so does a sequence of any length.  A transform has the whole response, and its answer is the
answer. -/
theorem Compiled.output_shapes (response : Response) (maxRows : Option UInt64) :
    let kept := ResultSet.firstRows response.resultSet.rows maxRows
    (∀ s : Statement, s.method = .select → ∃ set,
      (single s).output response none maxRows = .ok (.rows set) ∧ set.rows = kept ∧
        set.columns = response.resultSet.columns) ∧
    (∀ s : Statement, s.method = .first →
      (single s).output response none maxRows = .ok (.row kept.head?) ∧
        ((single s).output response none maxRows = .ok (.row none) ↔ kept = [])) ∧
    (∀ (s : Statement) (column : String), s.method = .pluck → s.pluck = some column →
      (∀ o, (single s).output response none maxRows = .ok o ↔
        ∃ values, o = .values values ∧ kept.map (·.get? column) = values.map some) ∧
      (∀ e, (single s).output response none maxRows = .error e ↔
        e = .execution ("column " ++ column ++ " is not in the result set") ∧
          ∃ row ∈ kept, row.get? column = none) ∧
      ∀ other : Response, ResultSet.firstRows other.resultSet.rows maxRows = kept →
        (single s).output other none maxRows = (single s).output response none maxRows) ∧
    (∀ s : Statement, s.method = .schema →
      (single s).output response none maxRows = .ok .unit) ∧
    (∀ ss, (sequence ss).output response none maxRows = .ok .unit) ∧
    ∀ (c : Compiled) (transform : Transform),
      c.output response (some transform) maxRows = transform response := by
  intro kept
  refine ⟨fun s hselect => ?_, fun s hfirst => ?_, fun s column hmethod hpluck => ⟨?_, ?_, ?_⟩,
    fun s hschema => Statement.output_of_schema hschema, fun ss => rfl, fun c transform => rfl⟩
  · exact ⟨_, Statement.output_of_select hselect, response.resultSet.rows_capped maxRows,
      response.resultSet.columns_capped maxRows⟩
  · have houtput : (single s).output response none maxRows = .ok (.row kept.head?) :=
      Statement.output_of_first hfirst
    refine ⟨houtput, ?_⟩
    rw [houtput, Except.ok.injEq, Output.row.injEq, List.head?_eq_none_iff]
  · exact fun o => Statement.output_eq_ok_iff hmethod hpluck
  · exact fun e => Statement.output_eq_error_iff hmethod hpluck
  · exact fun other hkept => Statement.output_congr hmethod hpluck hkept

/-- A row that is too short is cut off, and a name that repeats is read at its last place. -/
theorem Compiled.output_shapes_raggedIds :
    let ids : Statement := { sql := "select", method := .pluck, pluck := some "id" }
    let ragged : Response :=
      { resultSet := ResultSet.ofRows ["id", "name", "id"]
          [[.int 1, .text "ann", .int 7], [.int 2, .text "bob", .int 8], [.int 3]] }
    (single ids).output ragged none (some 2) = .ok (.values [.int 7, .int 8]) ∧
      (single ids).output ragged none none =
        .error (.execution ("column " ++ "id" ++ " is not in the result set")) := by
  intro ids ragged
  obtain ⟨-, -, hcut, -⟩ := output_shapes ragged (some 2)
  obtain ⟨-, -, hwhole, -⟩ := output_shapes ragged none
  obtain ⟨hvalues, -⟩ := hcut ids "id" rfl rfl
  obtain ⟨-, hmissing, -⟩ := hwhole ids "id" rfl rfl
  refine ⟨(hvalues _).mpr ⟨_, rfl, rfl⟩, (hmissing _).mpr ⟨rfl, ?_⟩⟩
  exact ⟨{ columns := ["id", "name", "id"], values := [.int 3] },
    by simp [ragged, ResultSet.firstRows], rfl⟩

end PolySql

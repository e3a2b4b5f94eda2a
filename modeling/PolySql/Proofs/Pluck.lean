import PolySql.Dialect.Builtin
import PolySql.Proofs.Fragment.Alias
import PolySql.Proofs.Fragment.Compiled
import PolySql.Proofs.Identifier
import PolySql.Proofs.ResultSet.Lookup
import PolySql.Request

/-!
# Plucking

A pluck selects its column under the name that the select list gives it (`Fragment.outputName`), and
looks it up in the answer under the text of the request.  Where the two are the same, every row that
is there has the column, and its value is found (`Query.output_pluck`).
-/

namespace PolySql

/-! ### The names of a select list -/

namespace Text

theorem trim_of_forall_not {s : String} (h : ∀ c ∈ s.toList, isBlank c = false) : trim s = s := by
  have hdrop (cs : List Char) (hcs : ∀ c ∈ cs, isBlank c = false) : cs.dropWhile isBlank = cs := by
    cases cs with
    | nil => rfl
    | cons c cs => rw [List.dropWhile_cons_of_neg (by simp [hcs c List.mem_cons_self])]
  rw [trim, trimEnd, trimStart, hdrop _ h, hdrop _ (by simpa using h), List.reverse_reverse,
    String.ofList_toList]

end Text

namespace Fragment

/-- The name of the column that an item of a select list gives: its alias, or the last segment of
its expression. -/
def selectedName : Fragment → String
  | [.ident _, .text _, .ident name] => name
  | [.ident expr] => String.ofList ((Dialect.segments expr).getLastD [])
  | _ => ""

/-- A name without blanks and dots is the name of its column. -/
theorem selectedName_of_bare {name : String}
    (h : ∀ c ∈ name.toList, Text.isBlank c = false ∧ c ≠ '.') (style : AliasStyle) :
    (selectItem style name).selectedName = name := by
  have hparts : aliasParts? name = none := aliasParts?_of_forall_not fun c hc => (h c hc).1
  have hsegments : Dialect.segments name = [name.toList] :=
    Dialect.segments_of_dotFree fun hdot => (h '.' hdot).2 rfl
  rw [selectItem, hparts, Text.trim_of_forall_not fun c hc => (h c hc).1]
  simp [selectedName, hsegments]

end Fragment

namespace Query

/-- The items of the select list of a query. -/
def selectItems (d : Dialect) (q : Query) : List Fragment :=
  q.selectColumns.map (Fragment.selectItem d.aliasStyle)

/-- The names of the columns that a query selects. -/
def outputNames (d : Dialect) (q : Query) : List String :=
  (q.selectItems d).map Fragment.selectedName

theorem selectColumns_ne_nil {q : Query} {column : String} (h : q.pluck = some column) :
    q.selectColumns ≠ [] := by
  rw [selectColumns, h]
  cases q.columns <;> simp

/-- The items stand in the fragment of a select, between commas and before the table. -/
theorem exists_selectItems {d : Dialect} {q : Query} {f : Fragment}
    (h : q.selectFragment d = .ok f) (hcolumns : q.selectColumns ≠ []) :
    ∃ before after, f = before ++ Fragment.joined ", " (q.selectItems d) ++
      .text " from " :: .ident q.table :: after := by
  obtain ⟨fs, -, hwindow⟩ := selectFragment_eq_ok.mp h
  have hlist : Fragment.selectList d.aliasStyle q.selectColumns =
      Fragment.joined ", " (q.selectItems d) := by
    rw [Fragment.selectList, if_neg (by simpa using hcolumns), selectItems]
  refine ⟨Fragment.windowOpening d.limitStrategy q.rowLimit q.offset ++
      [.text (if q.distinct then "select distinct " else "select ")],
    q.joins.flatMap Fragment.join ++ Fragment.whereClause fs ++ Fragment.orderBy q.ordering ++
      Fragment.windowClosing d.limitStrategy (!q.ordering.isEmpty) q.rowLimit q.offset, ?_⟩
  rw [Fragment.windowed_eq_ok hwindow, Fragment.selectHead, hlist]
  simp

/-! ### The answer to a pluck -/

/-- **A pluck finds its column under the name that it has in the select list.**  The statement selects
the items of the list, and a name without blanks and dots is the only one of them where no other
columns are asked for.  If the rows of an answer have the names of the items and lack no value, and
the text of the pluck is one of these names, then the answer is the values in its last column of this
name, row by row.  Without a text there is no answer. -/
theorem output_pluck (d : Dialect) (quoting : Bool) (q : Query) {s : Statement}
    (hmethod : q.method = .pluck) (hs : q.compile d quoting = .ok s) (maxRows : Option UInt64)
    (response : Response) :
    (q.pluck = none → (Compiled.single s).output response none maxRows =
      .error (.execution "pluck without a column")) ∧
    ∀ column, q.pluck = some column →
      (∃ before after, q.fragment d = .ok (before ++ Fragment.joined ", " (q.selectItems d) ++
        .text " from " :: .ident q.table :: after)) ∧
      (q.columns = [] → (∀ c ∈ column.toList, Text.isBlank c = false ∧ c ≠ '.') →
        q.outputNames d = [column]) ∧
      ((∀ row ∈ response.resultSet.rows,
          row.columns = q.outputNames d ∧ row.values.length = row.columns.length) →
        ((response.resultSet.capped maxRows).rows ≠ [] → column ∈ q.outputNames d) →
        ∃ values, (Compiled.single s).output response none maxRows = .ok (.values values) ∧
          List.Forall₂ (fun (row : Row) v => row.Holds column v)
            (response.resultSet.capped maxRows).rows values) := by
  obtain ⟨draft, hdraft, rfl⟩ := compile_eq_ok.mp hs
  have hf := fragment_of_draft hdraft
  have hrefused (hpluck : q.pluck = none) :
      (Compiled.single (q.statementOf (q.writer d quoting) draft)).output response none maxRows =
        .error (.execution "pluck without a column") := by
    simp only [Compiled.output, Statement.output, statementOf, hmethod, hpluck]
  have hplucked {column : String} (hpluck : q.pluck = some column) :
      (Compiled.single (q.statementOf (q.writer d quoting) draft)).output response none maxRows =
        (response.resultSet.capped maxRows).pluck column >>= fun values =>
          pure (.values values) := by
    simp only [Compiled.output, Statement.output, statementOf, hmethod, hpluck]
  refine ⟨hrefused, fun column hpluck => ⟨?_, ?_, ?_⟩⟩
  · obtain ⟨-, hselect⟩ := fragment_eq_ok.mp hf
    rw [hmethod] at hselect
    obtain ⟨before, after, hitems⟩ := exists_selectItems hselect (selectColumns_ne_nil hpluck)
    exact ⟨before, after, hitems ▸ hf⟩
  · intro hcolumns hbare
    rw [outputNames, selectItems, selectColumns, hpluck, hcolumns, List.map_singleton,
      List.map_singleton, Fragment.selectedName_of_bare hbare]
  · intro hrows hcolumn
    have hkept : ∀ row ∈ (response.resultSet.capped maxRows).rows,
        column ∈ row.columns ∧ row.values.length = row.columns.length := by
      intro row hrow
      obtain ⟨hnames, hcomplete⟩ := hrows row (ResultSet.mem_of_mem_capped hrow)
      exact ⟨hnames ▸ hcolumn (List.ne_nil_of_mem hrow), hcomplete⟩
    obtain ⟨values, hvalues, hall⟩ := ResultSet.exists_pluck hkept
    refine ⟨values, ?_, hall⟩
    rw [hplucked hpluck, hvalues]
    rfl

theorem output_pluck_names :
    let ann : Row := { columns := ["name"], values := [.text "ann"] }
    let bob : Row := { columns := ["name"], values := [.text "bob"] }
    ∃ s values, (plucking "users" "name").compile .postgres true = .ok s ∧
      (Compiled.single s).output { resultSet := { rows := [ann, bob] } } none (some 1) =
        .ok (.values values) ∧
      List.Forall₂ (fun (row : Row) v => row.Holds "name" v) [ann] values := by
  intro ann bob
  have hcompile : (plucking "users" "name").compile .postgres true = .ok _ := compile_of_draft rfl
  obtain ⟨-, hpluck⟩ := output_pluck .postgres true (plucking "users" "name") rfl hcompile (some 1)
    { resultSet := { rows := [ann, bob] } }
  obtain ⟨-, hbare, hvalues⟩ := hpluck "name" rfl
  have hletters : ∀ c ∈ ['n', 'a', 'm', 'e'], Text.isBlank c = false ∧ c ≠ '.' := by
    simp [Text.isBlank, Text.blankRanges]
  have hnames := hbare rfl hletters
  have hrows : ∀ row ∈ [ann, bob],
      row.columns = ["name"] ∧ row.values.length = row.columns.length := by
    intro row hrow
    simp only [List.mem_cons, List.not_mem_nil, or_false] at hrow
    rcases hrow with rfl | rfl
    · exact ⟨rfl, rfl⟩
    · exact ⟨rfl, rfl⟩
  obtain ⟨values, houtput, hall⟩ := hvalues (hnames ▸ hrows) (by simp [hnames])
  exact ⟨_, values, hcompile, houtput, hall⟩

/-- A pluck without a text has no answer.  Nor has one that selects other columns, or whose text is
longer than the name that its column gets, as soon as there is a row. -/
theorem not_output_pluck :
    let bare : Query := { method := .pluck, table := "users", columns := ["id"] }
    let other : Query := { plucking "users" "name" with columns := ["id"] }
    let dotted : Query := plucking "users" "users.name"
    (∃ s, bare.compile .postgres true = .ok s ∧ bare.outputNames .postgres = ["id"] ∧
      (Compiled.single s).output { resultSet := ResultSet.ofRows ["id"] [[.int 1]] } none none =
        .error (.execution "pluck without a column")) ∧
    (∃ s, other.compile .postgres true = .ok s ∧ other.outputNames .postgres = ["id"] ∧
      (Compiled.single s).output { resultSet := ResultSet.ofRows ["id"] [[.int 1]] } none none =
        .error (ResultSet.missingColumn "name")) ∧
    (∃ s, dotted.compile .postgres true = .ok s ∧ dotted.outputNames .postgres = ["name"] ∧
      (Compiled.single s).output { resultSet := ResultSet.ofRows ["name"] [[.text "ann"]] } none none =
        .error (ResultSet.missingColumn "users.name")) :=
  ⟨⟨_, compile_of_draft rfl, by decide, rfl⟩, ⟨_, compile_of_draft rfl, by decide, rfl⟩,
    ⟨_, compile_of_draft rfl, by decide, rfl⟩⟩

end Query

end PolySql

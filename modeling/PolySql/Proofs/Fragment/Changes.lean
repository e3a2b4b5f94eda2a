import PolySql.Proofs.Fragment.Clauses

/-!
# The layout of inserts, updates and deletes

The clauses that hand rows back, the three ways of writing the rows of an insert, and the
assignments of an update.  `Query.laid_fragment` collects all statements.
-/

namespace PolySql

variable {N : String → Prop} {R : String → List Value → Prop}

/-! ### The columns of an insert -/

theorem mem_insertDistinct {s t : String} {texts : List String} :
    t ∈ insertDistinct s texts ↔ t = s ∨ t ∈ texts := by
  induction texts with
  | nil => simp [insertDistinct]
  | cons u rest ih =>
    unfold insertDistinct
    split_ifs with hlt heq
    · simp
    · subst heq
      simp
    · simp only [List.mem_cons, ih]
      tauto

theorem mem_sortedDistinct {t : String} {texts : List String} :
    t ∈ sortedDistinct texts ↔ t ∈ texts := by
  induction texts with
  | nil => simp [sortedDistinct]
  | cons s rest ih =>
    rw [sortedDistinct, List.foldr_cons, mem_insertDistinct, ← sortedDistinct, ih, List.mem_cons]

namespace Fragment

/-! ### Handing rows back -/

theorem laid_output (d : Dialect) {pseudoTable : String}
    (hpseudo : pseudoTable = "inserted" ∨ pseudoTable = "deleted") {returning : Option (List String)}
    (h : ∀ column ∈ returning.getD [], N column) :
    Laid N R (output d pseudoTable returning) ∧ Follows (output d pseudoTable returning) := by
  unfold output
  split
  · rename_i columns hstrategy
    refine ⟨Laid.text_cons (Laid.joined ?_ separates_comma) rfl rfl, .cons rfl _⟩
    intro f hf
    obtain ⟨column, hcolumn, rfl⟩ := List.mem_map.mp hf
    have hident : Laid N R [.ident column] := .single (h column hcolumn)
    rcases hpseudo with rfl | rfl <;> exact hident.text_cons rfl rfl
  · exact ⟨.nil, follows_nil⟩

theorem laid_rowIdSlot (columns : List String) (ordinal : Nat) :
    Laid N R (rowIdSlot columns ordinal).1 ∧ Follows (rowIdSlot columns ordinal).1 :=
  ⟨Laid.text_cons (.single trivial) rfl rfl, .cons rfl _⟩

theorem laid_trailingReturning (hN : NameProperty N) (d : Dialect) (table : String)
    {returning : Option (List String)} (h : ∀ column ∈ returning.getD [], N column) :
    Laid N R (Draft.trailingReturning d table returning).fragment ∧
      Follows (Draft.trailingReturning d table returning).fragment := by
  unfold Draft.trailingReturning
  cases returning with
  | none => exact ⟨.nil, follows_nil⟩
  | some columns =>
    cases d.returningStrategy with
    | native => exact ⟨(laid_selectList hN d.aliasStyle h).text_cons rfl rfl, .cons rfl _⟩
    | output => exact ⟨.nil, follows_nil⟩
    | refetch => exact laid_rowIdSlot columns 0

/-! ### Inserts -/

theorem laid_insertTarget {table : String} {columns : List String} (htable : N table)
    (hcolumns : ∀ column ∈ columns, N column) : Laid N R (insertTarget table columns) := by
  have hlist : Laid N R (identList columns) := by
    refine Laid.joined ?_ separates_comma
    intro f hf
    obtain ⟨column, hcolumn, rfl⟩ := List.mem_map.mp hf
    exact .single (hcolumns column hcolumn)
  have hclosed := hlist.append_of_follows (.text rfl : Laid N R [.text ")"]) (.cons rfl _)
  have hopen := hclosed.cons_separates (p := .ident table) (s := " (") htable ⟨rfl, rfl, rfl⟩
  simpa [insertTarget] using hopen

/-- The columns and one row of an insert. -/
theorem laid_insertRow {table : String} {columns : List String} (before : String)
    (row : List Cell) (htable : N table) (hcolumns : ∀ column ∈ columns, N column)
    (hbefore : before.toList.all isPlain) (hend : (Piece.text before).endsApart) :
    Laid N R (.text before :: insertTarget table columns ++ [.text " values ("] ++
      rowValues columns row ++ [.text ")"]) := by
  have hvalues : Laid N R (rowValues columns row ++ [.text ")"]) :=
    (laid_valueList _).append_of_follows (.text rfl) (.cons rfl _)
  have htarget : Laid N R (.text before :: insertTarget table columns) :=
    (laid_insertTarget htable hcolumns).text_cons hbefore hend
  have hall := htarget.append_of_follows
    (hvalues.text_cons (s := " values (") rfl rfl) (.cons rfl _)
  simpa using hall

theorem laid_insertBlock (d : Dialect) {table : String} {columns returning : List String}
    (rows : List (List Cell)) (htable : N table) (hcolumns : ∀ column ∈ columns, N column) :
    Laid N R (Draft.insertBlock d table columns rows returning).fragment := by
  have hrow : ∀ f ∈ rows.zipIdx.map fun numbered =>
      (insertWithSlot table columns numbered.1 returning numbered.2).1,
      Laid N R f ∧ Follows f := by
    intro f hf
    obtain ⟨⟨row, ordinal⟩, -, rfl⟩ := List.mem_map.mp hf
    have hslot := laid_rowIdSlot (N := N) (R := R) returning ordinal
    have hinsert := (laid_insertRow " insert into " row htable hcolumns rfl rfl).append_of_follows
      hslot.1 hslot.2
    exact ⟨hinsert.append_of_follows (.text rfl) (.cons rfl _), .cons rfl _⟩
  -- "begin" ends in a letter, so what follows it has to start with a blank
  obtain ⟨hlaid, hfollows⟩ := Laid.flatten hrow
  have hend := hlaid.append_of_follows (.text rfl : Laid N R [.text " end;"]) (.cons rfl _)
  rw [Draft.fragment_insertBlock]
  exact .cons_of_follows (p := .text "begin") rfl hend (hfollows.append (.cons rfl _))

theorem laid_insertAll {table : String} {columns : List String} (rows : List (List Cell))
    (htable : N table) (hcolumns : ∀ column ∈ columns, N column) :
    Laid N R (insertAll table columns rows) := by
  have hrow : ∀ f ∈ rows.map fun row =>
      .text " into " :: insertTarget table columns ++ [.text " values ("] ++
        rowValues columns row ++ [.text ")"], Laid N R f ∧ Follows f := by
    intro f hf
    obtain ⟨row, -, rfl⟩ := List.mem_map.mp hf
    exact ⟨laid_insertRow " into " row htable hcolumns rfl rfl, .cons rfl _⟩
  obtain ⟨hlaid, hfollows⟩ := Laid.flatten hrow
  have hend := hlaid.append_of_follows (.text rfl : Laid N R [.text " select 1 from dual"])
    (.cons rfl _)
  exact .cons_of_follows (p := .text "insert all") rfl hend (hfollows.append (.cons rfl _))

theorem laid_insertRows (hN : NameProperty N) (d : Dialect) {table : String}
    {columns : List String} (rows : List (List Cell)) {returning : Option (List String)}
    (htable : N table) (hcolumns : ∀ column ∈ columns, N column)
    (hreturning : ∀ column ∈ returning.getD [], N column) :
    Laid N R (Draft.insertRows d table columns rows returning).fragment := by
  have htarget : Laid N R (.text "insert into " :: insertTarget table columns) :=
    (laid_insertTarget htable hcolumns).text_cons rfl rfl
  have houtput := laid_output (R := R) d (.inl rfl) hreturning
  have htrailing := laid_trailingReturning (R := R) hN d table hreturning
  have hrows : Laid N R (joined ", " (rows.map fun row => wrapped "(" ")" (rowValues columns row))) := by
    refine Laid.joined ?_ separates_comma
    intro f hf
    obtain ⟨row, -, rfl⟩ := List.mem_map.mp hf
    exact (laid_valueList _).wrapped rfl rfl rfl rfl
  have hvalues := (hrows.text_cons (s := " values ") rfl rfl).append_of_follows
    htrailing.1 htrailing.2
  have hall := (htarget.append_of_follows houtput.1 houtput.2).append_of_follows hvalues
    (.cons rfl _)
  simpa [Draft.insertRows] using hall

end Fragment

namespace Query

theorem laid_insertFragment (hN : NameProperty N) (d : Dialect) {q : Query} {f : Fragment}
    (h : ∀ name ∈ q.ownNames, N name) (hf : q.insertFragment d = .ok f) : f.Laid N R := by
  have htable : N q.table := h _ q.table_mem_ownNames
  have hcolumns : ∀ column ∈ q.insertColumns, N column := fun column hcolumn =>
    h column (mem_ownNames_of_mem_rows (mem_sortedDistinct.mp hcolumn))
  have hreturning : ∀ column ∈ q.returningColumns?.getD [], N column := fun column hcolumn =>
    h column (mem_ownNames_of_mem_returningColumns hcolumn)
  obtain ⟨-, -, rfl⟩ := insertFragment_eq_ok.mp hf
  unfold insertBody
  split_ifs
  · split
    · exact Fragment.laid_insertBlock d q.rows htable hcolumns
    · exact Fragment.laid_insertAll q.rows htable hcolumns
  · exact Fragment.laid_insertRows hN d q.rows htable hcolumns hreturning

/-! ### Updates and deletes -/

theorem laid_setFragment {q : Query} {f : Fragment} (h : ∀ name ∈ q.ownNames, N name)
    (hf : q.setFragment = .ok f) : f.Laid N R := by
  obtain ⟨-, rfl⟩ := setFragment_eq_ok.mp hf
  refine Fragment.Laid.joined ?_ Fragment.separates_comma
  intro f hf
  obtain ⟨⟨column, v⟩, hcell, rfl⟩ := List.mem_map.mp hf
  have hcolumn : N column := h _ (mem_ownNames_of_mem_assignments hcell)
  exact (Fragment.Laid.single (p := .value v) trivial).cons_separates (p := .ident column)
    (s := " = ") hcolumn ⟨rfl, rfl, rfl⟩

theorem laid_counterFragment {q : Query} {f : Fragment} (h : ∀ name ∈ q.ownNames, N name)
    (hf : q.counterFragment = .ok f) : f.Laid N R := by
  obtain ⟨column, amount, hcounter, -, rfl⟩ := counterFragment_eq_ok.mp hf
  have hcolumn : N column := h _ (mem_ownNames_of_counter hcounter)
  have hsign : Separates (counterSign amount) := by
    unfold counterSign
    split <;> exact ⟨rfl, rfl, rfl⟩
  have hamount := (Fragment.Laid.single (N := N) (R := R) (p := .value (.int amount.abs))
    trivial).cons_separates (p := .ident column) hcolumn hsign
  exact hamount.cons_separates (p := .ident column) (s := " = ") hcolumn ⟨rfl, rfl, rfl⟩

/-- Conditions at the end of a change, with the clauses around them. -/
theorem laid_changeTail (hN : NameProperty N) {d : Dialect} {q : Query} {pseudoTable : String}
    (hpseudo : pseudoTable = "inserted" ∨ pseudoTable = "deleted") {conditions : List Fragment}
    (hnames : ∀ name ∈ q.names, N name) (hraws : ∀ r ∈ q.raws, R r.1 r.2)
    (hconditions : conditionFragments d q.conditions = .ok conditions) :
    (Fragment.output d pseudoTable q.returningColumns? ++ Fragment.whereClause conditions ++
        (Draft.trailingReturning d q.table q.returningColumns?).fragment).Laid N R ∧
      (Fragment.output d pseudoTable q.returningColumns? ++ Fragment.whereClause conditions ++
        (Draft.trailingReturning d q.table q.returningColumns?).fragment).Follows := by
  rw [names_eq] at hnames
  rw [raws_eq] at hraws
  obtain ⟨hown, hnested⟩ := List.forall_mem_append.mp hnames
  have hreturning : ∀ column ∈ q.returningColumns?.getD [], N column := fun column hcolumn =>
    hown column (mem_ownNames_of_mem_returningColumns hcolumn)
  have houtput := Fragment.laid_output (R := R) d hpseudo hreturning
  have hwhere := Fragment.laid_whereClause (laid_conditions
    (fun p _ => Predicate.of_inherits (laid_inherits hN d) p) hnested hraws hconditions)
  have htrailing := Fragment.laid_trailingReturning (R := R) hN d q.table hreturning
  exact ⟨(houtput.1.append_of_follows hwhere.1 hwhere.2).append_of_follows htrailing.1 htrailing.2,
    (houtput.2.append hwhere.2).append htrailing.2⟩

theorem laid_updateFragment (hN : NameProperty N) {d : Dialect} {q : Query} {f : Fragment}
    (hnames : ∀ name ∈ q.names, N name) (hraws : ∀ r ∈ q.raws, R r.1 r.2)
    (hf : q.updateFragment d = .ok f) : f.Laid N R := by
  have hown : ∀ name ∈ q.ownNames, N name := fun name hname =>
    hnames name (mem_names_of_mem_ownNames hname)
  obtain ⟨assignments, conditions, hassignments, hconditions, rfl⟩ := updateFragment_eq_ok.mp hf
  -- the assignments are those of a counter or those of an update
  have hset : assignments.Laid N R := by
    unfold changeFragment at hassignments
    split at hassignments
    · exact laid_counterFragment hown hassignments
    · exact laid_setFragment hown hassignments
  have htail := laid_changeTail hN (.inl rfl) hnames hraws hconditions
  have hhead := (hset.cons_separates (p := .ident q.table) (s := " set ")
    (hown _ q.table_mem_ownNames) ⟨rfl, rfl, rfl⟩).text_cons (s := "update ") rfl rfl
  simpa using hhead.append_of_follows htail.1 htail.2

theorem laid_deleteFragment (hN : NameProperty N) {d : Dialect} {q : Query} {f : Fragment}
    (hnames : ∀ name ∈ q.names, N name) (hraws : ∀ r ∈ q.raws, R r.1 r.2)
    (hf : q.deleteFragment d = .ok f) : f.Laid N R := by
  have hown : ∀ name ∈ q.ownNames, N name := fun name hname =>
    hnames name (mem_names_of_mem_ownNames hname)
  obtain ⟨-, conditions, hconditions, rfl⟩ := deleteFragment_eq_ok.mp hf
  have htail := laid_changeTail hN (.inr rfl) hnames hraws hconditions
  have hhead := (Fragment.Laid.single (N := N) (R := R) (p := .ident q.table)
    (hown _ q.table_mem_ownNames)).text_cons (s := "delete from ") rfl rfl
  simpa using hhead.append_of_follows htail.1 htail.2

/-! ### All statements -/

/-- **The fragment of a query is laid out over what the query mentions.** -/
theorem laid_fragment (hN : NameProperty N) {d : Dialect} {q : Query} {f : Fragment}
    (hnames : ∀ name ∈ q.names, N name) (hraws : ∀ r ∈ q.raws, R r.1 r.2)
    (hf : q.fragment d = .ok f) : f.Laid N R := by
  have hselect : ∀ f, q.selectFragment d = .ok f → f.Laid N R :=
    of_inherits (laid_inherits hN d) q hnames hraws
  have hown : ∀ name ∈ q.ownNames, N name := fun name hname =>
    hnames name (mem_names_of_mem_ownNames hname)
  obtain ⟨-, hf⟩ := fragment_eq_ok.mp hf
  split at hf
  · exact hselect f hf
  · exact hselect f hf
  · exact hselect f hf
  · exact laid_insertFragment hN d hown hf
  · exact laid_updateFragment hN hnames hraws hf
  · exact laid_updateFragment hN hnames hraws hf
  · exact laid_deleteFragment hN hnames hraws hf
  · exact hf.elim

end Query

end PolySql

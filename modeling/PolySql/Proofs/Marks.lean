import PolySql.Proofs.Fragment.Placed
import PolySql.Proofs.Returning

/-!
# Marks in names

Names may have any characters, the neutral mark too.  Quotes do not keep it: the pass over the
finished text takes it for a place, puts a token into the name and numbers all later places wrongly.
Only names without a mark are found in the statement as they were written, and only a statement
without a mark in its names has as many tokens as bindings (`Query.compile_marks`).

The names of two tables without marks are told apart by the statements: queries that differ in the
table alone have different fragments (`Fragment.Retables`), whose texts differ too.
-/

namespace PolySql

namespace Fragment

/-! ### Fragments of different tables -/

/-- The same piece, or the names of two tables. -/
def RenamedPiece (t u : String) (p q : Piece) : Prop :=
  p = q ∨ (p = .ident t ∧ q = .ident u)

/-- Fragments that have the name of one table here and there where the other has that of another. -/
abbrev Renamed (t u : String) (f g : Fragment) : Prop :=
  List.Forall₂ (RenamedPiece t u) f g

/-- Fragments that differ in the name of the table alone, and do so at least once. -/
def Retables (t u : String) (f g : Fragment) : Prop :=
  ∃ before rest rest', f = before ++ .ident t :: rest ∧ g = before ++ .ident u :: rest' ∧
    Renamed t u rest rest'

section Renamed

variable {t u : String}

theorem Renamed.refl (f : Fragment) : Renamed t u f f :=
  List.forall₂_same.mpr fun _ _ => .inl rfl

theorem Renamed.append {f f' g g' : Fragment} (hf : Renamed t u f f') (hg : Renamed t u g g') :
    Renamed t u (f ++ g) (f' ++ g') :=
  List.rel_append hf hg

theorem Renamed.flatMap {α : Type} {make make' : α → Fragment} {items : List α}
    (h : ∀ item ∈ items, Renamed t u (make item) (make' item)) :
    Renamed t u (items.flatMap make) (items.flatMap make') := by
  induction items with
  | nil => exact .nil
  | cons item items ih =>
    obtain ⟨hitem, hitems⟩ := List.forall_mem_cons.mp h
    exact hitem.append (ih hitems)

theorem Renamed.symm {f g : Fragment} (h : Renamed t u f g) : Renamed u t g f := by
  refine List.Forall₂.flip (h.imp ?_)
  rintro p q (rfl | ⟨rfl, rfl⟩)
  · exact .inl rfl
  · exact .inr ⟨rfl, rfl⟩

theorem Retables.symm {f g : Fragment} (h : Retables t u f g) : Retables u t g f := by
  obtain ⟨before, rest, rest', hf, hg, hrest⟩ := h
  exact ⟨before, rest', rest, hg, hf, hrest.symm⟩

theorem Retables.table : Retables t u [.ident t] [.ident u] :=
  ⟨[], [], [], rfl, rfl, .nil⟩

theorem Retables.prepend {f g : Fragment} (h : Retables t u f g) (start : Fragment) :
    Retables t u (start ++ f) (start ++ g) := by
  obtain ⟨before, rest, rest', rfl, rfl, hrest⟩ := h
  exact ⟨start ++ before, rest, rest', (List.append_assoc ..).symm, (List.append_assoc ..).symm,
    hrest⟩

theorem Retables.append {f f' g g' : Fragment} (h : Retables t u f f') (hg : Renamed t u g g') :
    Retables t u (f ++ g) (f' ++ g') := by
  obtain ⟨before, rest, rest', rfl, rfl, hrest⟩ := h
  exact ⟨before, rest ++ g, rest' ++ g', by simp, by simp, hrest.append hg⟩

theorem Retables.follow {f g : Fragment} (h : Retables t u f g) (rest : Fragment) :
    Retables t u (f ++ rest) (g ++ rest) :=
  h.append (.refl rest)

theorem Retables.renamed {f g : Fragment} (h : Retables t u f g) : Renamed t u f g := by
  obtain ⟨before, rest, rest', rfl, rfl, hrest⟩ := h
  exact (Renamed.refl before).append (.cons (.inr ⟨rfl, rfl⟩) hrest)

variable {w : Writer} {f g : Fragment}

/-- The texts of a fragment are as long as those of another with a longer name of the table, or
shorter.  Places keep their numbers where neither name has a mark. -/
theorem Renamed.length_placed_le (h : Renamed t u f g) {i j : Nat}
    (hlength : (w.identifier t).toList.length ≤ (w.identifier u).toList.length)
    (hmarks : w.dialect.placeholderStyle = .question ∨
      Placeholder.mark ∉ (w.identifier t).toList ∧ Placeholder.mark ∉ (w.identifier u).toList)
    (hij : w.dialect.placeholderStyle = .question ∨ i = j) :
    List.Forall₂ (fun l m => l.length ≤ m.length)
      ((f.placed w i).map Prod.snd) ((g.placed w j).map Prod.snd) := by
  induction h generalizing i j with
  | nil => exact .nil
  | @cons p q f g hpq _ ih =>
    rw [placed, placed, List.map_cons, List.map_cons]
    rcases hpq with rfl | ⟨rfl, rfl⟩
    · refine .cons ?_ (ih (hij.imp_right fun h => by rw [h]))
      rcases hij with hstyle | rfl
      · rw [hstyle, Placeholder.positionFrom_question, Placeholder.positionFrom_question]
      · exact Nat.le_refl _
    · -- neither name has a mark that is numbered, so the places after them go on alike
      rw [Piece.neutral, Piece.neutral]
      rcases hmarks with hstyle | ⟨ht, hu⟩
      · refine .cons ?_ (ih (.inl hstyle))
        rwa [hstyle, Placeholder.positionFrom_question, Placeholder.positionFrom_question]
      · refine .cons ?_ (ih ?_)
        · rwa [Placeholder.positionFrom_of_not_mem _ _ ht,
            Placeholder.positionFrom_of_not_mem _ _ hu]
        · rwa [List.count_eq_zero.mpr ht, List.count_eq_zero.mpr hu]

/-- Where the name of one table is not longer than that of the other, finished texts are the same
only if the names are. -/
theorem Retables.identifier_eq_of_le (h : Retables t u f g)
    (hlength : (w.identifier t).toList.length ≤ (w.identifier u).toList.length)
    (hmarks : w.dialect.placeholderStyle = .question ∨
      Placeholder.mark ∉ (w.identifier t).toList ∧ Placeholder.mark ∉ (w.identifier u).toList)
    (hsql : Placeholder.position w.dialect.placeholderStyle (f.neutral w) =
      Placeholder.position w.dialect.placeholderStyle (g.neutral w)) :
    w.identifier t = w.identifier u := by
  obtain ⟨before, rest, rest', rfl, rfl, hrest⟩ := h
  rw [Placeholder.position_eq, Placeholder.position_eq, String.ofList_inj, toList_neutral_append,
    toList_neutral_append, Placeholder.positionFrom_append, Placeholder.positionFrom_append,
    List.append_cancel_left_eq, ← flatten_placed, ← flatten_placed] at hsql
  have hrenamed : Renamed t u (.ident t :: rest) (.ident u :: rest') :=
    .cons (.inr ⟨rfl, rfl⟩) hrest
  have htexts := eq_of_flatten_eq (hrenamed.length_placed_le hlength hmarks (.inr rfl)) hsql
  rw [placed, placed, List.map_cons, List.map_cons] at htexts
  -- the names stand first in both, unchanged
  have hkept (name : String) (k : Nat) (hname : w.dialect.placeholderStyle = .question ∨
      Placeholder.mark ∉ (w.identifier name).toList) :
      Placeholder.positionFrom w.dialect.placeholderStyle k (w.identifier name).toList =
        (w.identifier name).toList :=
    Placeholder.positionFrom_eq_self_iff.mpr hname
  have hhead := (List.cons.inj htexts).1
  rw [Piece.neutral, Piece.neutral, hkept t _ (hmarks.imp_right And.left),
    hkept u _ (hmarks.imp_right And.right)] at hhead
  exact String.toList_inj.mp hhead

end Renamed

end Fragment

theorem Writer.identifier_injective {w : Writer} (hd : w.dialect.QuotesClear) :
    Function.Injective w.identifier := by
  intro name other h
  unfold identifier at h
  split at h
  · exact Dialect.quote_injective hd.openDot hd.closeDot h
  · exact h

theorem Writer.mark_mem_identifier_iff {w : Writer} (hd : w.dialect.QuotesClear) (name : String) :
    Placeholder.mark ∈ (w.identifier name).toList ↔ Placeholder.mark ∈ name.toList := by
  rw [← List.count_pos_iff, w.count_mark_identifier hd, List.count_pos_iff]

namespace Fragment

/-- **Finished texts tell tables apart.**  Fragments that differ in the name of the table alone make
the same statement only if the name is the same, where marks in the names are not numbered. -/
theorem Retables.eq_of_position_eq {w : Writer} (hd : w.dialect.QuotesClear) {t u : String}
    {f g : Fragment} (h : Retables t u f g)
    (hmarks : w.dialect.placeholderStyle = .question ∨
      Placeholder.mark ∉ t.toList ∧ Placeholder.mark ∉ u.toList)
    (hsql : Placeholder.position w.dialect.placeholderStyle (f.neutral w) =
      Placeholder.position w.dialect.placeholderStyle (g.neutral w)) : t = u := by
  rw [← w.mark_mem_identifier_iff hd t, ← w.mark_mem_identifier_iff hd u] at hmarks
  apply w.identifier_injective hd
  rcases Nat.le_total (w.identifier t).toList.length (w.identifier u).toList.length with hle | hle
  · exact h.identifier_eq_of_le hle hmarks hsql
  · exact (h.symm.identifier_eq_of_le hle (hmarks.imp_right And.symm) hsql.symm).symm

end Fragment

/-! ### Queries on different tables -/

namespace Query

variable {d : Dialect} {q : Query} {table : String} {f g : Fragment}

theorem retables_selectFragment (hf : q.selectFragment d = .ok f)
    (hg : selectFragment d { q with table } = .ok g) : f.Retables q.table table g := by
  obtain ⟨fs, hfs, hf⟩ := selectFragment_eq_ok.mp hf
  obtain ⟨gs, hgs, hg⟩ := selectFragment_eq_ok.mp hg
  obtain rfl : fs = gs := Except.ok.inj (hfs.symm.trans hgs)
  have hfrom : Fragment.Retables q.table table [.text " from ", .ident q.table]
      [.text " from ", .ident table] := Fragment.Retables.table.prepend [.text " from "]
  have hhead : Fragment.Retables q.table table (Fragment.selectHead d q)
      (Fragment.selectHead d { q with table }) := (hfrom.prepend _).follow _
  rw [Fragment.windowed_eq_ok hf, Fragment.windowed_eq_ok hg]
  exact (((hhead.follow _).follow _).prepend _).follow _

theorem retables_insertTarget (columns : List String) {t u : String} :
    Fragment.Retables t u (Fragment.insertTarget t columns) (Fragment.insertTarget u columns) :=
  ((Fragment.Retables.table.follow [.text " ("]).follow _).follow _

/-- The clause at the end of a statement has the table in its refetch alone. -/
theorem fragment_trailingReturning_congr (d : Dialect) (t u : String)
    (returning : Option (List String)) :
    (Draft.trailingReturning d t returning).fragment =
      (Draft.trailingReturning d u returning).fragment := by
  unfold Draft.trailingReturning
  cases returning with
  | none => rfl
  | some columns => cases d.returningStrategy <;> rfl

theorem retables_after {before before' : Fragment} {t u : String}
    (h : Fragment.Retables t u before before') (d : Dialect) (returning : Option (List String)) :
    Fragment.Retables t u ((Draft.trailingReturning d t returning).after before).fragment
      ((Draft.trailingReturning d u returning).after before').fragment := by
  rw [Draft.fragment_after, Draft.fragment_after, fragment_trailingReturning_congr d u t]
  exact h.follow _

/-- What an insert writes for each of its rows, when it writes the table for each of them. -/
theorem retables_flatMap {α : Type} {make make' : α → Fragment} {items : List α} {t u : String}
    (h : ∀ item, Fragment.Retables t u (make item) (make' item)) (hitems : items ≠ []) :
    Fragment.Retables t u (items.flatMap make) (items.flatMap make') := by
  cases items with
  | nil => exact absurd rfl hitems
  | cons item items =>
    exact (h item).append (Fragment.Renamed.flatMap fun item _ => (h item).renamed)

theorem retables_insertFragment (hf : q.insertFragment d = .ok f)
    (hg : insertFragment d { q with table } = .ok g) : f.Retables q.table table g := by
  obtain ⟨hrows, -, rfl⟩ := insertFragment_eq_ok.mp hf
  obtain ⟨-, -, rfl⟩ := insertFragment_eq_ok.mp hg
  have htarget : Fragment.Retables q.table table
      (Fragment.insertTarget q.table q.insertColumns)
      (Fragment.insertTarget table q.insertColumns) := retables_insertTarget q.insertColumns
  have hzip : q.rows.zipIdx ≠ [] := by simpa using hrows
  unfold insertBody
  split_ifs with hseveral
  · have hreturning : returningColumns? { q with table } = q.returningColumns? := rfl
    rw [hreturning]
    cases q.returningColumns? with
    | some returning =>
      have hrow (numbered : List Cell × Nat) :=
        (((((htarget.prepend [.text " insert into "]).follow [.text " values ("]).follow
          (Fragment.rowValues q.insertColumns numbered.1)).follow [.text ")"]).follow
          (Fragment.rowIdSlot returning numbered.2).1).follow [.text ";"]
      have hblock := retables_flatMap hrow hzip
      simp only [Draft.fragment_insertBlock]
      exact (hblock.prepend [.text "begin"]).follow [.text " end;"]
    | none =>
      have hrow (row : List Cell) :=
        (((htarget.prepend [.text " into "]).follow [.text " values ("]).follow
          (Fragment.rowValues q.insertColumns row)).follow [.text ")"]
      have hall := retables_flatMap hrow hrows
      exact (hall.prepend [.text "insert all"]).follow [.text " select 1 from dual"]
  · exact retables_after
      ((((htarget.prepend [.text "insert into "]).follow _).follow _).follow _) d _

theorem retables_updateFragment (hf : q.updateFragment d = .ok f)
    (hg : updateFragment d { q with table } = .ok g) : f.Retables q.table table g := by
  obtain ⟨assignments, conditions, hassignments, hfs, rfl⟩ := updateFragment_eq_ok.mp hf
  obtain ⟨assignments', conditions', hassignments', hgs, rfl⟩ := updateFragment_eq_ok.mp hg
  obtain rfl : assignments = assignments' := Except.ok.inj (hassignments.symm.trans hassignments')
  obtain rfl : conditions = conditions' := Except.ok.inj (hfs.symm.trans hgs)
  have hupdate : Fragment.Retables q.table table [.text "update ", .ident q.table, .text " set "]
      [.text "update ", .ident table, .text " set "] :=
    (Fragment.Retables.table.follow [.text " set "]).prepend [.text "update "]
  exact retables_after (((hupdate.follow _).follow _).follow _) d q.returningColumns?

theorem retables_deleteFragment (hf : q.deleteFragment d = .ok f)
    (hg : deleteFragment d { q with table } = .ok g) : f.Retables q.table table g := by
  obtain ⟨-, conditions, hfs, rfl⟩ := deleteFragment_eq_ok.mp hf
  obtain ⟨-, conditions', hgs, rfl⟩ := deleteFragment_eq_ok.mp hg
  obtain rfl : conditions = conditions' := Except.ok.inj (hfs.symm.trans hgs)
  have hdelete : Fragment.Retables q.table table [.text "delete from ", .ident q.table]
      [.text "delete from ", .ident table] :=
    Fragment.Retables.table.prepend [.text "delete from "]
  exact retables_after ((hdelete.follow _).follow _) d q.returningColumns?

/-- Queries that differ in the table alone have fragments that do. -/
theorem retables_fragment (hf : q.fragment d = .ok f)
    (hg : fragment d { q with table } = .ok g) : f.Retables q.table table g := by
  obtain ⟨-, hf⟩ := fragment_eq_ok.mp hf
  obtain ⟨-, hg⟩ := fragment_eq_ok.mp hg
  cases q with
  | mk method =>
    cases method with
    | select => exact retables_selectFragment hf hg
    | pluck => exact retables_selectFragment hf hg
    | first => exact retables_selectFragment hf hg
    | insert => exact retables_insertFragment hf hg
    | update => exact retables_updateFragment hf hg
    | counter => exact retables_updateFragment hf hg
    | delete => exact retables_deleteFragment hf hg
    | schema => exact hf.elim

/-! ### Marks in refetches -/

/-- Outside of names, a refetch has one mark for each row id. -/
theorem count_ownChars_refetchFragment (d : Dialect) (table : String) (columns : List String)
    (count : Nat) :
    ((refetchFragment d table columns count).flatMap Piece.ownChars).count Placeholder.mark =
      count := by
  have hhead : ((refetchHead d table columns).flatMap Piece.ownChars).count Placeholder.mark =
      0 := by
    have hlaid : (refetchHead d table columns).Laid (fun _ => True) fun _ _ => False :=
      laid_refetchHead nameProperty_true d trivial fun _ _ => trivial
    rw [Fragment.count_ownChars_of_over hlaid.pieces]
    simp [refetchHead]
  have hmarks : ((Fragment.joined ", " (List.replicate count [.text "?"])).flatMap
      Piece.ownChars).count Placeholder.mark = count := by
    induction count with
    | zero => rfl
    | succ count ih =>
      cases count with
      | zero => rfl
      | succ count =>
        rw [List.replicate_succ, List.replicate_succ, Fragment.joined_cons_cons,
          ← List.replicate_succ, List.flatMap_append, List.flatMap_cons, List.count_append,
          List.flatMap_cons, List.count_append, List.count_append, ih]
        simp [Piece.ownChars, Placeholder.mark]
        omega
  rw [refetchFragment_eq, List.flatMap_append, List.flatMap_append, List.count_append,
    List.count_append, hhead, hmarks]
  simp [Piece.ownChars, Placeholder.mark]

end Query

/-! ### Finished texts -/

/-- What becomes of the names and places of a fragment in the finished text: it is made of the
pieces of the fragment, in which each name is as it was written unless a mark in it was numbered,
and beside the places the marks in names are numbered, so that there are as many tokens as places
if and only if no name has a mark. -/
structure Finished (w : Writer) (f : Fragment) (sql : String) (places : Nat) : Prop where
  text : sql.toList = ((f.placed w 1).map Prod.snd).flatten
  names : ∀ name cs, (.ident name, cs) ∈ f.placed w 1 →
    (cs = (w.identifier name).toList ↔
      w.dialect.placeholderStyle = .question ∨ Placeholder.mark ∉ name.toList)
  marks : Placeholder.count (f.neutral w) =
    places + (f.flatMap Piece.nameChars).count Placeholder.mark
  count_eq_iff : Placeholder.count (f.neutral w) = places ↔
    ∀ name, .ident name ∈ f → Placeholder.mark ∉ name.toList

/-- The names of a fragment have no marks if none of them has one. -/
theorem Fragment.count_nameChars_eq_zero_iff {f : Fragment} :
    (f.flatMap Piece.nameChars).count Placeholder.mark = 0 ↔
      ∀ name, .ident name ∈ f → Placeholder.mark ∉ name.toList := by
  rw [List.count_eq_zero, List.mem_flatMap]
  constructor
  · intro hnone name hname hmark
    exact hnone ⟨.ident name, hname, hmark⟩
  · rintro hnames ⟨p, hp, hmark⟩
    cases p with
    | ident name => exact hnames name hp hmark
    | _ => exact absurd hmark List.not_mem_nil

theorem finished_position {w : Writer} (hd : w.dialect.QuotesClear) {f : Fragment} {places : Nat}
    (hplaces : (f.flatMap Piece.ownChars).count Placeholder.mark = places) :
    Finished w f (Placeholder.position w.dialect.placeholderStyle (f.neutral w)) places := by
  have hmarks : Placeholder.count (f.neutral w) =
      places + (f.flatMap Piece.nameChars).count Placeholder.mark := by
    rw [Placeholder.count, Fragment.count_neutral hd, hplaces]
  exact {
    text := by rw [Placeholder.position_eq, String.toList_ofList, Fragment.flatten_placed]
    names := fun _ _ h => Fragment.placed_ident_eq_iff hd h
    marks := hmarks
    count_eq_iff := by rw [hmarks, Nat.add_eq_left, Fragment.count_nameChars_eq_zero_iff] }

namespace Query

/-- **Names with marks do not survive.**  In the statement of a query without conditions in SQL, and
in its refetch, a name stands as it was written if and only if it has no mark or marks are not
numbered, and the tokens are as many as the bindings and the marks in names together, which is as
many as the bindings if and only if no name has a mark.  Where marks in the names of tables are not
numbered, or there are none, queries that differ in the table alone have different statements. -/
theorem compile_marks {d : Dialect} {quoting : Bool} {q : Query} {s : Statement}
    (hd : d.QuotesClear) (hraws : q.raws = []) (h : q.compile d quoting = .ok s) :
    (∃ f, q.fragment d = .ok f ∧ Finished (q.writer d quoting) f s.sql s.bindings.length) ∧
    (∀ refetch ∈ s.refetch,
      Finished (q.writer d quoting)
        (refetchFragment d q.table (q.returning.getD []) s.slots.length)
        refetch.sql refetch.rowIds.length) ∧
    ∀ table t, compile d quoting { q with table } = .ok t →
      (d.placeholderStyle = .question ∨
        Placeholder.mark ∉ q.table.toList ∧ Placeholder.mark ∉ table.toList) →
      s.sql = t.sql → q.table = table := by
  obtain ⟨draft, hdraft, rfl⟩ := compile_eq_ok.mp h
  have hf := fragment_of_draft hdraft
  refine ⟨⟨draft.fragment, hf, ?_⟩, fun refetch hrefetch => ?_, fun table t ht hmarks hsql => ?_⟩
  · have hlaid : draft.fragment.Laid (fun _ => True) fun _ _ => False :=
      laid_fragment nameProperty_true (fun _ _ => trivial) (by simp [hraws]) hf
    exact finished_position hd (Fragment.count_ownChars_of_over hlaid.pieces)
  · obtain ⟨-, rfl⟩ :=
      (refetch_statementOf_eq_some_iff (w := q.writer d quoting) hdraft).mp hrefetch
    rw [List.length_map]
    exact finished_position hd (count_ownChars_refetchFragment ..)
  · obtain ⟨draft', hdraft', rfl⟩ := compile_eq_ok.mp ht
    exact (retables_fragment hf (fragment_of_draft hdraft')).eq_of_position_eq hd hmarks hsql

/-- An insert into a table with a mark in its name, which hands back the key. -/
def insertMarked : Query :=
  { insertOne "orders?" [("id", .int 1)] with returning := some ["id"] }

theorem compile_marks_insertMarked :
    Dialect.oracle.QuotesClear ∧ insertMarked.raws = [] ∧
      ∃ s, insertMarked.compile .oracle true = .ok s ∧ s.refetch.isSome ∧
        (∃ f, insertMarked.fragment .oracle = .ok f ∧
          Finished (insertMarked.writer .oracle true) f s.sql s.bindings.length) ∧
        (∀ refetch ∈ s.refetch,
          Finished (insertMarked.writer .oracle true)
            (refetchFragment .oracle "orders?" ["id"] s.slots.length)
            refetch.sql refetch.rowIds.length) ∧
        ∀ table t, compile .oracle true { insertMarked with table } = .ok t →
          (Dialect.oracle.placeholderStyle = .question ∨
            Placeholder.mark ∉ insertMarked.table.toList ∧ Placeholder.mark ∉ table.toList) →
          s.sql = t.sql → insertMarked.table = table := by
  have hd : Dialect.oracle.QuotesClear := Engine.quotesClear .oracle rfl rfl
  obtain ⟨s, hs, hrefetch⟩ :
      ∃ s, insertMarked.compile .oracle true = .ok s ∧ s.refetch.isSome :=
    ⟨_, compile_of_draft rfl, rfl⟩
  exact ⟨hd, rfl, s, hs, hrefetch, compile_marks hd rfl hs⟩

/-- A mark in the name of a table takes the number of the first binding, and makes the statement
that of another table. -/
theorem not_names_survive :
    Dialect.postgres.quote "a?" = "\"a?\"" ∧
    (∃ s, compile .postgres true
        { select "a?" with conditions := [.compare "id" .eq (.int 1)] } = .ok s ∧
      s.sql = "select * from \"a$1\" where \"id\" = $2" ∧ s.bindings.length = 1) ∧
    ∃ s t, (select "a?").compile .postgres true = .ok s ∧
      (select "a$1").compile .postgres true = .ok t ∧
      s.sql = "select * from \"a$1\"" ∧ t.sql = "select * from \"a$1\"" :=
  ⟨rfl, ⟨_, compile_of_draft rfl, rfl, rfl⟩, _, _, compile_of_draft rfl, compile_of_draft rfl, rfl,
    rfl⟩

end Query

end PolySql

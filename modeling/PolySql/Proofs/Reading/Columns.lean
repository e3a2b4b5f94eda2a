import PolySql.Proofs.Fragment.Compiled
import PolySql.Proofs.Fragment.Enclosed
import PolySql.Proofs.Identifier
import PolySql.Proofs.Reading.Token

/-!
# The columns of a select

A select has the columns that its list names.  A select of everything from a select in parentheses
has the columns of that one, and where it numbers the rows as well, the number is one column more.
`Projects` reads the columns of a select like this, and reads them in one way only
(`Projects.unique`).

A window that needs no more than a clause at the end, or one select around the other one, leaves the
columns as they are.  Where a window by row numbers skips rows, the numbers stay in the answer: the
select has the column `rownum_` behind those that were asked for (`Query.projects_compile`).
-/

namespace PolySql

namespace Token

/-! ### Lists of items -/

/-- The comma between the items of a list. -/
def comma : Token :=
  .own (.sign ',')

/-- Tokens that make one item of a list of columns. -/
structure IsItem (ts : List Token) : Prop where
  nonempty : ts ≠ []
  noComma : comma ∉ ts
  noFrom : .own (.word "from") ∉ ts
  noDistinct : .own (.word "distinct") ∉ ts

/-- A list of items, behind `distinct` or not. -/
structure IsList (list : List Token) (items : List (List Token)) : Prop where
  nonempty : items ≠ []
  isItem : ∀ item ∈ items, IsItem item
  eq : list = List.intercalate [comma] items ∨
    list = .own (.word "distinct") :: List.intercalate [comma] items

theorem own_notMem_list {l : Lexeme} {items : List (List Token)} (hcomma : l ≠ .sign ',')
    (hitems : ∀ item ∈ items, .own l ∉ item) : .own l ∉ List.intercalate [comma] items := by
  intro h
  rcases mem_of_mem_intercalate h with h | ⟨item, hitem, h⟩
  · exact hcomma (Token.own.inj (List.mem_singleton.mp h))
  · exact hitems item hitem h

/-- Items without commas are what stands between the commas of their list. -/
theorem intercalate_comma_inj {items items' : List (List Token)}
    (hitems : ∀ item ∈ items, IsItem item) (hitems' : ∀ item ∈ items', IsItem item)
    (hne : items ≠ []) (hne' : items' ≠ [])
    (h : List.intercalate [comma] items = List.intercalate [comma] items') : items = items' := by
  classical
  have hsplit := congrArg (List.splitOn comma) h
  rwa [List.splitOn_intercalate comma (fun item hitem => (hitems item hitem).noComma) hne,
    List.splitOn_intercalate comma (fun item hitem => (hitems' item hitem).noComma) hne'] at hsplit

variable {list : List Token} {items items' : List (List Token)}

theorem IsList.noFrom (h : IsList list items) : .own (.word "from") ∉ list := by
  have hfrom : .own (.word "from") ∉ List.intercalate [comma] items :=
    own_notMem_list (by decide) fun item hitem => (h.isItem item hitem).noFrom
  rcases h.eq with rfl | rfl
  · exact hfrom
  · simpa using hfrom

theorem IsList.unique (h : IsList list items) (h' : IsList list items') : items = items' := by
  have hdistinct : .own (.word "distinct") ∉ List.intercalate [comma] items :=
    own_notMem_list (by decide) fun item hitem => (h.isItem item hitem).noDistinct
  have hdistinct' : .own (.word "distinct") ∉ List.intercalate [comma] items' :=
    own_notMem_list (by decide) fun item hitem => (h'.isItem item hitem).noDistinct
  refine intercalate_comma_inj h.isItem h'.isItem h.nonempty h'.nonempty ?_
  rcases h.eq with hlist | hlist <;> rcases h'.eq with hlist' | hlist'
  · exact hlist.symm.trans hlist'
  · rw [hlist.symm.trans hlist'] at hdistinct
    exact absurd List.mem_cons_self hdistinct
  · rw [hlist'.symm.trans hlist] at hdistinct'
    exact absurd List.mem_cons_self hdistinct'
  · exact (List.cons.inj (hlist.symm.trans hlist')).2

/-! ### Selects from something -/

/-- A select of a list from a source. -/
def selectFrom (list source : List Token) : List Token :=
  .own (.word "select") :: (list ++ .own (.word "from") :: source)

theorem selectFrom_append (list source rest : List Token) :
    selectFrom list source ++ rest = selectFrom list (source ++ rest) := by
  simp [selectFrom]

/-- What stands before the first of a token is determined. -/
theorem append_cons_inj {α : Type} {a : α} {xs ys rest rest' : List α} (hx : a ∉ xs) (hy : a ∉ ys)
    (h : xs ++ a :: rest = ys ++ a :: rest') : xs = ys ∧ rest = rest' := by
  induction xs generalizing ys with
  | nil =>
    cases ys with
    | nil => exact ⟨rfl, (List.cons.inj h).2⟩
    | cons y ys =>
      obtain ⟨rfl, -⟩ := List.cons.inj h
      exact absurd List.mem_cons_self hy
  | cons x xs ih =>
    rw [List.mem_cons, not_or] at hx
    cases ys with
    | nil =>
      obtain ⟨rfl, -⟩ := List.cons.inj h
      exact absurd rfl hx.1
    | cons y ys =>
      rw [List.mem_cons, not_or] at hy
      obtain ⟨rfl, htail⟩ := List.cons.inj h
      obtain ⟨rfl, hrest⟩ := ih hx.2 hy.2 htail
      exact ⟨rfl, hrest⟩

theorem selectFrom_inj {list' source source' rest rest' : List Token}
    (hlist : .own (.word "from") ∉ list) (hlist' : .own (.word "from") ∉ list')
    (h : selectFrom list source ++ rest = selectFrom list' source' ++ rest') :
    list = list' ∧ source ++ rest = source' ++ rest' := by
  rw [selectFrom_append, selectFrom_append] at h
  exact append_cons_inj hlist hlist' (List.cons.inj h).2

/-- The list of a select that numbers the rows of another one, or adds another item to them. -/
def extended (row : String) (item name : Token) : List Token :=
  [.own (.word row), .own (.sign '.'), .own (.sign '*'), comma, item, name]

theorem extended_ne_star (row : String) (item name : Token) :
    extended row item name ≠ [.own (.sign '*')] := fun h =>
  absurd (congrArg List.length h) (by simp [extended])

theorem eq_of_extended_eq {row row' : String} {item item' name name' : Token}
    (h : extended row item name = extended row' item' name') : name = name' := by
  simpa [extended] using congrArg List.getLast? h

end Token

open Token

/-! ### Reading columns -/

/-- Tokens that start with a select of these columns. -/
inductive Projects : List Token → List (List Token) → Prop where
  /-- Items from a table. -/
  | list {list : List Token} {items : List (List Token)} {table : String} {rest : List Token}
      (h : IsList list items) : Projects (selectFrom list (.name table :: rest)) items
  /-- Everything from a select. -/
  | all {inner : List Token} {columns : List (List Token)} {rest : List Token}
      (h : Projects inner columns) :
      Projects (selectFrom [.own (.sign '*')]
        (.own (.sign '(') :: (inner ++ .own (.sign ')') :: rest))) columns
  /-- Everything from a select that goes by a name, and an item under a name of its own. -/
  | extended {row : String} {item name : Token} {inner : List Token}
      {columns : List (List Token)} {rest : List Token}
      (hfrom : .own (.word "from") ∉ extended row item name) (h : Projects inner columns) :
      Projects (selectFrom (Token.extended row item name)
        (.own (.sign '(') :: (inner ++ .own (.sign ')') :: .own (.word row) :: rest)))
        (columns ++ [[name]])

namespace Projects

/-- What follows a select does not count. -/
theorem append {ts : List Token} {columns : List (List Token)} (h : Projects ts columns)
    (rest : List Token) : Projects (ts ++ rest) columns := by
  cases h with
  | list h =>
    rw [selectFrom_append]
    exact .list h
  | all h =>
    rw [selectFrom_append, List.cons_append, List.append_assoc]
    exact .all h
  | extended hfrom h =>
    rw [selectFrom_append, List.cons_append, List.append_assoc]
    exact .extended hfrom h

theorem eq_of_append_eq {ts us rest rest' : List Token} {columns columns' : List (List Token)}
    (h : Projects ts columns) (h' : Projects us columns') (heq : ts ++ rest = us ++ rest') :
    columns = columns' := by
  have hstar : Token.own (.word "from") ∉ [.own (.sign '*')] := by simp
  induction h generalizing us columns' rest rest' with
  | list h =>
    cases h' with
    | list h' =>
      obtain ⟨rfl, -⟩ := selectFrom_inj h.noFrom h'.noFrom heq
      exact h.unique h'
    | all h' =>
      obtain ⟨-, hsource⟩ := selectFrom_inj h.noFrom hstar heq
      simp at hsource
    | extended hfrom h' =>
      obtain ⟨-, hsource⟩ := selectFrom_inj h.noFrom hfrom heq
      simp at hsource
  | all h ih =>
    cases h' with
    | list h' =>
      obtain ⟨-, hsource⟩ := selectFrom_inj hstar h'.noFrom heq
      simp at hsource
    | all h' =>
      obtain ⟨-, hsource⟩ := selectFrom_inj hstar hstar heq
      exact ih h' (by simpa using hsource)
    | extended hfrom h' =>
      obtain ⟨hlist, -⟩ := selectFrom_inj hstar hfrom heq
      exact absurd hlist.symm (extended_ne_star _ _ _)
  | extended hfrom h ih =>
    cases h' with
    | list h' =>
      obtain ⟨-, hsource⟩ := selectFrom_inj hfrom h'.noFrom heq
      simp at hsource
    | all h' =>
      obtain ⟨hlist, -⟩ := selectFrom_inj hfrom hstar heq
      exact absurd hlist (extended_ne_star _ _ _)
    | extended hfrom' h' =>
      obtain ⟨hlist, hsource⟩ := selectFrom_inj hfrom hfrom' heq
      rw [ih h' (by simpa using hsource), eq_of_extended_eq hlist]

/-- **The columns of a select are read in one way only.** -/
theorem unique {ts : List Token} {columns columns' : List (List Token)} (h : Projects ts columns)
    (h' : Projects ts columns') : columns = columns' :=
  h.eq_of_append_eq h' (rfl : ts ++ [] = ts ++ [])

end Projects

/-! ### The columns that are asked for -/

namespace Fragment

theorem isItem_selectItem (style : AliasStyle) (item : String) :
    IsItem (selectItem style item).tokens where
  nonempty := by
    unfold selectItem
    split <;> exact List.cons_ne_nil _ _
  noComma := free_selectItem style item (by decide)
  noFrom := free_selectItem style item (by decide)
  noDistinct := free_selectItem style item (by decide)

end Fragment

/-- The column that numbers the rows of a select, where a window skips some of them by number. -/
def LimitStrategy.numberColumns (strategy : LimitStrategy) (offset : Option UInt64) :
    List (List Token) :=
  if strategy = .rowNum ∧ offset.isSome then [[.own (.word "rownum_")]] else []

namespace Fragment

section RowNumbers

variable {f : Fragment} {columns : List (List Token)} {rest : List Token}

theorem projects_all (after : Fragment) (hf : Projects f.tokens columns)
    (hafter : after.tokens = .own (.sign ')') :: rest) :
    Projects (tokens (.text "select * from (" :: f ++ after)) columns := by
  have hbefore : (Piece.text "select * from (").tokens =
      [.own (.word "select"), .own (.sign '*'), .own (.word "from"), .own (.sign '(')] := rfl
  rw [List.cons_append, tokens_cons, tokens_append, hbefore, hafter]
  exact .all hf

theorem projects_numbered (after : Fragment) (hf : Projects f.tokens columns)
    (hafter : after.tokens = .own (.sign ')') :: .own (.word "row_") :: rest) :
    Projects (tokens (.text "select row_.*, ROWNUM rownum_ from (" :: f ++ after))
      (columns ++ [[.own (.word "rownum_")]]) := by
  have hbefore : (Piece.text "select row_.*, ROWNUM rownum_ from (").tokens =
      .own (.word "select") ::
        (extended "row_" (.own (.word "ROWNUM")) (.own (.word "rownum_")) ++
          [.own (.word "from"), .own (.sign '(')]) := rfl
  rw [List.cons_append, tokens_cons, tokens_append, hbefore, hafter, List.cons_append,
    List.append_assoc]
  exact .extended (by simp [extended, comma]) hf

/-- To skip rows a window puts two selects around the one that it numbers, and the number that the
inner one adds is a column of the outer one as well. -/
theorem projects_rowNum (hf : Projects f.tokens columns) (ordered : Bool)
    (limit offset : Option UInt64) :
    Projects (tokens (windowOpening .rowNum limit offset ++ f ++
        windowClosing .rowNum ordered limit offset))
      (columns ++ LimitStrategy.numberColumns .rowNum offset) := by
  cases offset with
  | none =>
    rw [LimitStrategy.numberColumns, if_neg (by simp), List.append_nil]
    cases limit with
    | none => simpa [windowOpening, windowClosing] using hf
    | some n =>
      exact projects_all (windowClosing .rowNum ordered (some n) none) hf rfl
  | some m =>
    have hnumbered := projects_numbered [.text ") row_ where rownum <= ",
      .value (boundValue (windowEnd limit m.toNat))] hf rfl
    have houter := projects_all [.text ") where rownum_ > ", .value (boundValue m.toNat)]
      hnumbered rfl
    simpa [windowOpening, windowClosing, LimitStrategy.numberColumns] using houter

end RowNumbers

theorem projects_windowed {strategy : LimitStrategy} {ordered : Bool} {f g : Fragment}
    {limit offset : Option UInt64} {columns : List (List Token)} (hf : Projects f.tokens columns)
    (h : windowed strategy ordered f limit offset = .ok g) :
    Projects g.tokens (columns ++ strategy.numberColumns offset) := by
  rw [windowed_eq_ok h]
  cases strategy with
  | limitOffset requiresLimit =>
    rw [LimitStrategy.numberColumns, if_neg (by simp), List.append_nil, tokens_append]
    exact hf.append _
  | offsetFetch =>
    rw [LimitStrategy.numberColumns, if_neg (by simp), List.append_nil, tokens_append]
    exact hf.append _
  | rowNum => exact projects_rowNum hf ordered limit offset

end Fragment

namespace Query

/-- The items of a select list as tokens. -/
def requestedColumns (d : Dialect) (q : Query) : List (List Token) :=
  q.selectColumns.map fun item => (Fragment.selectItem d.aliasStyle item).tokens

variable {d : Dialect} {q : Query}

theorem tokens_selectList (h : q.selectColumns ≠ []) :
    (Fragment.selectList d.aliasStyle q.selectColumns).tokens =
      List.intercalate [comma] (q.requestedColumns d) := by
  have hempty : ¬ q.selectColumns.isEmpty := by simpa using h
  rw [Fragment.selectList, if_neg hempty, Fragment.tokens_joined, List.map_map]
  rfl

theorem projects_selectHead (h : q.selectColumns ≠ []) :
    Projects (Fragment.selectHead d q).tokens (q.requestedColumns d) := by
  have hisList (list : List Token)
      (hlist : list = List.intercalate [comma] (q.requestedColumns d) ∨
        list = .own (.word "distinct") :: List.intercalate [comma] (q.requestedColumns d)) :
      IsList list (q.requestedColumns d) := by
    refine ⟨by simpa [requestedColumns] using h, fun item hitem => ?_, hlist⟩
    obtain ⟨column, -, rfl⟩ := List.mem_map.mp hitem
    exact Fragment.isItem_selectItem d.aliasStyle column
  -- what follows the table does not count
  have htokens : (Fragment.selectHead d q).tokens =
      (Piece.text (if q.distinct then "select distinct " else "select ")).tokens ++
        (List.intercalate [comma] (q.requestedColumns d) ++
          .own (.word "from") :: .name q.table :: Fragment.tokens (q.joins.flatMap Fragment.join)) := by
    rw [Fragment.selectHead, Fragment.tokens_append, Fragment.tokens_append,
      Fragment.tokens_append, tokens_selectList h, List.append_assoc, List.append_assoc,
      Fragment.tokens_cons, Fragment.tokens_nil, List.append_nil]
    rfl
  rw [htokens]
  split
  · exact .list (hisList _ (.inr rfl))
  · exact .list (hisList _ (.inl rfl))

/-- A select has the columns that were asked for, and the number of a row where its window skips
rows by number. -/
theorem projects_selectFragment {f : Fragment} (h : q.selectColumns ≠ [])
    (hf : q.selectFragment d = .ok f) :
    Projects f.tokens (q.requestedColumns d ++ d.limitStrategy.numberColumns q.offset) := by
  obtain ⟨fs, -, hwindow⟩ := selectFragment_eq_ok.mp hf
  refine Fragment.projects_windowed ?_ hwindow
  rw [Fragment.tokens_append, Fragment.tokens_append]
  exact ((projects_selectHead h).append _).append _

/-- **A window by row numbers that skips rows adds a column.**  In a statement stands, for each
select in it with a list of columns, at the top or inside of a condition, a select that has the
columns of that list.  It has no others unless its window skips rows by their numbers: then the
column `rownum_` comes behind them. -/
theorem projects_compile {quoting : Bool} {s : Statement} (h : q.compile d quoting = .ok s) :
    ∃ f, q.fragment d = .ok f ∧
      s.sql = Placeholder.position d.placeholderStyle (f.neutral (q.writer d quoting)) ∧
      ∀ sub ∈ q.writtenSelects, sub.selectColumns ≠ [] →
        ∃ g, sub.selectFragment d = .ok g ∧ g <:+: f ∧
          (∀ columns, Projects g.tokens columns ↔
            columns = sub.requestedColumns d ++ d.limitStrategy.numberColumns sub.offset) ∧
          (Projects g.tokens (sub.requestedColumns d) ↔
            ¬ (d.limitStrategy = .rowNum ∧ sub.offset.isSome)) := by
  obtain ⟨draft, hdraft, rfl⟩ := compile_eq_ok.mp h
  have hf := fragment_of_draft hdraft
  refine ⟨draft.fragment, hf, rfl, fun sub hsub hcolumns => ?_⟩
  obtain ⟨g, hg, hfg⟩ := holds_writtenSelects hf sub hsub
  have hprojects := projects_selectFragment hcolumns hg
  have hiff : ∀ columns, Projects g.tokens columns ↔
      columns = sub.requestedColumns d ++ d.limitStrategy.numberColumns sub.offset :=
    fun columns => ⟨fun h => h.unique hprojects, fun h => h ▸ hprojects⟩
  refine ⟨g, hg, hfg, hiff, (hiff _).trans ?_⟩
  rw [List.self_eq_append_right, LimitStrategy.numberColumns]
  split_ifs with hnumbered
  · simp [hnumbered]
  · simp [hnumbered]

/-- The second and third of the users' orders. -/
def laterOrders : Query :=
  { select "orders" with columns := ["user_id"], limit := some 2, offset := some 1 }

/-- The users of some orders. -/
def usersOfLaterOrders : Query :=
  { select "users" with columns := ["name"], conditions := [.inQuery "id" laterOrders] }

theorem projects_compile_usersOfLaterOrders :
    ∃ s f g, usersOfLaterOrders.compile .oracle true = .ok s ∧
      usersOfLaterOrders.fragment .oracle = .ok f ∧
      laterOrders.selectFragment .oracle = .ok g ∧ g <:+: f ∧
      ∀ columns, Projects g.tokens columns ↔
        columns = [[.name "user_id"], [.own (.word "rownum_")]] := by
  have hcompile : usersOfLaterOrders.compile .oracle true = .ok _ := compile_of_draft rfl
  obtain ⟨f, hf, -, hselects⟩ := projects_compile hcompile
  obtain ⟨g, hg, hfg, hcolumns, -⟩ :=
    hselects laterOrders (List.mem_cons_of_mem _ List.mem_cons_self) (List.cons_ne_nil _ _)
  exact ⟨_, f, g, hcompile, hf, hg, hfg, hcolumns⟩

/-- The query in the condition asks for one column, and its select has two. -/
theorem not_projects_compile :
    ∃ s f g, usersOfLaterOrders.compile .oracle true = .ok s ∧
      usersOfLaterOrders.fragment .oracle = .ok f ∧
      laterOrders.selectFragment .oracle = .ok g ∧ Fragment.wrapped "(" ")" g <:+: f ∧
      laterOrders.columns = ["user_id"] ∧
      ¬ Projects g.tokens [[.name "user_id"]] ∧
      Projects g.tokens [[.name "user_id"], [.own (.word "rownum_")]] := by
  have hfragment : usersOfLaterOrders.fragment .oracle = .ok _ := rfl
  obtain ⟨g, hg, hfg⟩ := encloses_subqueries hfragment laterOrders List.mem_cons_self
  have hprojects := projects_selectFragment (q := laterOrders) (List.cons_ne_nil _ _) hg
  have hone : ¬ Projects g.tokens [[.name "user_id"]] := fun h =>
    absurd (congrArg List.length (h.unique hprojects)) (by decide)
  exact ⟨_, _, g, compile_of_draft rfl, hfragment, hg, hfg, rfl, hone, hprojects⟩

end Query

end PolySql

import PolySql.Proofs.Fragment.Alias
import PolySql.Proofs.Fragment.Layout
import PolySql.Proofs.Fragment.Window
import PolySql.Proofs.Nesting

/-!
# The layout of every clause

`Query.laid_fragment` puts the clauses together: the fragment of a query is laid out over the names
and the conditions in SQL that the query mentions.  Select lists cut their items into words and trim
them, so the property of the names has to go over to both (`NameProperty`).
-/

namespace PolySql

/-- A property that a name hands on to its words and to itself without the blanks around it. -/
structure NameProperty (N : String → Prop) : Prop where
  trim : ∀ name, N name → N (Text.trim name)
  word : ∀ name, N name → ∀ w ∈ Text.words name, N w

/-- Names without any restriction. -/
theorem nameProperty_true : NameProperty fun _ => True where
  trim _ _ := trivial
  word _ _ _ _ := trivial

variable {N : String → Prop} {R : String → List Value → Prop}

namespace Fragment

/-! ### Select lists -/

theorem laid_selectItem (hN : NameProperty N) (style : AliasStyle) {item : String} (h : N item) :
    Laid N R (selectItem style item) := by
  unfold selectItem
  split
  · rename_i expr name hparts
    -- the expression and the alias are words of the item
    obtain ⟨hexpr, hname⟩ := mem_words_of_aliasParts hparts
    have halias : Laid N R [.ident name] := .single (hN.word item h name hname)
    exact halias.cons_separates (hN.word item h expr hexpr) style.separates_separator
  · exact .single (hN.trim item h)

theorem separates_comma : Separates ", " :=
  ⟨rfl, rfl, rfl⟩

theorem laid_selectList (hN : NameProperty N) (style : AliasStyle) {items : List String}
    (h : ∀ item ∈ items, N item) : Laid N R (selectList style items) := by
  unfold selectList
  split
  · exact .text rfl
  · refine Laid.joined ?_ separates_comma
    rintro f hf
    obtain ⟨item, hitem, rfl⟩ := List.mem_map.mp hf
    exact laid_selectItem hN style (h item hitem)

/-! ### The clauses of a select -/

theorem laid_join {j : Join} (htable : N j.table) (hleft : N j.left) (hright : N j.right) :
    Laid N R (join j) ∧ Follows (join j) := by
  have hlast : Laid N R [.ident j.right] := .single hright
  have hcondition := hlast.cons_separates (p := .ident j.left) hleft j.op.separates_sql
  have htable' :=
    hcondition.cons_separates (p := .ident j.table) (s := " on ") htable ⟨rfl, rfl, rfl⟩
  have hwords := j.kind.separates_words
  exact ⟨htable'.text_cons hwords.plain hwords.ends, .cons hwords.starts _⟩

theorem laid_orderBy {keys : List OrderKey} (h : ∀ key ∈ keys, N key.column) :
    Laid N R (orderBy keys) ∧ Follows (orderBy keys) := by
  unfold orderBy
  split
  · exact ⟨.nil, follows_nil⟩
  · refine ⟨Laid.text_cons (Laid.joined ?_ separates_comma) rfl rfl, .cons rfl _⟩
    intro f hf
    obtain ⟨key, hkey, rfl⟩ := List.mem_map.mp hf
    have hword : key.direction.word.toList.all isPlain ∧
        (Piece.text key.direction.word).startsApart := by
      cases key.direction <;> exact ⟨rfl, rfl⟩
    exact Laid.cons_of_follows (h key hkey) (.text hword.1) (.cons hword.2 _)

theorem laid_whereClause {conditions : List Fragment} (h : ∀ f ∈ conditions, Laid N R f) :
    Laid N R (whereClause conditions) ∧ Follows (whereClause conditions) := by
  unfold whereClause
  split
  · exact ⟨.nil, follows_nil⟩
  · exact ⟨(Laid.joined h ⟨rfl, rfl, rfl⟩).text_cons rfl rfl, .cons rfl _⟩

theorem laid_valueList (values : List Value) : Laid N R (valueList values) := by
  refine Laid.joined ?_ separates_comma
  intro f hf
  obtain ⟨v, -, rfl⟩ := List.mem_map.mp hf
  exact .single trivial

theorem laid_selectHead (hN : NameProperty N) (d : Dialect) {q : Query}
    (h : ∀ name ∈ q.ownNames, N name) : Laid N R (selectHead d q) := by
  have hcolumns : ∀ item ∈ q.selectColumns, N item := fun item hitem =>
    h item (Query.mem_ownNames_of_mem_selectColumns hitem)
  have hlist : Laid N R (selectList d.aliasStyle q.selectColumns) :=
    laid_selectList hN d.aliasStyle hcolumns
  have htable : Laid N R [.text " from ", .ident q.table] :=
    (Laid.single (p := .ident q.table) (h _ q.table_mem_ownNames)).text_cons rfl rfl
  have hjoins : Laid N R (q.joins.flatMap join) ∧ Follows (q.joins.flatMap join) := by
    refine Laid.flatten ?_
    intro f hf
    obtain ⟨j, hj, rfl⟩ := List.mem_map.mp hf
    have hnames : ∀ name ∈ [j.table, j.left, j.right], N name := fun name hname =>
      h name (Query.mem_ownNames_of_mem_joins hj hname)
    exact laid_join (hnames _ (by simp)) (hnames _ (by simp)) (hnames _ (by simp))
  have hhead := (hlist.append_of_follows htable (.cons rfl _)).append_of_follows hjoins.1 hjoins.2
  unfold selectHead
  split <;> simpa using hhead.text_cons rfl rfl

/-! ### Windows -/

theorem laid_windowClosing (strategy : LimitStrategy) (ordered : Bool)
    (limit offset : Option UInt64) :
    Laid N R (windowClosing strategy ordered limit offset) ∧
      Follows (windowClosing strategy ordered limit offset) := by
  constructor
  · cases strategy with
    | limitOffset requiresLimit =>
      cases requiresLimit <;> cases limit <;> cases offset <;>
        simp [windowClosing, laid_cons, Laid.nil, Piece.Over, Piece.value, Piece.Apart,
          Piece.startsApart, Piece.endsApart, isPlain, isSeparator, isWordChar]
    | offsetFetch =>
      cases ordered <;> cases limit <;> cases offset <;>
        simp [windowClosing, laid_cons, Laid.nil, Piece.Over, Piece.value, Piece.Apart,
          Piece.startsApart, Piece.endsApart, isPlain, isSeparator, isWordChar]
    | rowNum =>
      cases limit <;> cases offset <;>
        simp [windowClosing, laid_cons, Laid.nil, Piece.Over, Piece.value, Piece.Apart,
          Piece.startsApart, Piece.endsApart, isPlain, isSeparator, isWordChar]
  · cases strategy with
    | limitOffset requiresLimit =>
      cases requiresLimit <;> cases limit <;> cases offset <;>
        first | exact follows_nil | exact .cons rfl _
    | offsetFetch =>
      cases ordered <;> cases limit <;> cases offset <;>
        first | exact follows_nil | exact .cons rfl _
    | rowNum =>
      cases limit <;> cases offset <;> first | exact follows_nil | exact .cons rfl _

theorem laid_windowed {strategy : LimitStrategy} {ordered : Bool} {f g : Fragment}
    {limit offset : Option UInt64} (hf : Laid N R f)
    (h : windowed strategy ordered f limit offset = .ok g) : Laid N R g := by
  rw [windowed_eq_ok h]
  obtain ⟨hclosing, hfollows⟩ :=
    laid_windowClosing (N := N) (R := R) strategy ordered limit offset
  refine Laid.append_of_follows ?_ hclosing hfollows
  -- what is left is the opening, which only windows by row numbers have
  cases strategy with
  | limitOffset requiresLimit => simpa [windowOpening] using hf
  | offsetFetch => simpa [windowOpening] using hf
  | rowNum =>
    cases limit <;> cases offset <;>
      first
      | exact hf
      | exact hf.text_cons rfl rfl
      | exact (hf.text_cons rfl rfl).text_cons rfl rfl

end Fragment

/-! ### Conditions and selects -/

/-- Fragments of conditions are laid out as soon as each condition hands that on to its own. -/
theorem laid_conditions {d : Dialect} {ps : List Predicate} {fs : List Fragment}
    (ih : ∀ p ∈ ps, (∀ name ∈ p.names, N name) → (∀ r ∈ p.raws, R r.1 r.2) →
      ∀ f, p.fragment d = .ok f → f.Laid N R)
    (hnames : ∀ name ∈ ps.flatMap Predicate.names, N name)
    (hraws : ∀ r ∈ ps.flatMap Predicate.raws, R r.1 r.2)
    (h : conditionFragments d ps = .ok fs) : ∀ f ∈ fs, f.Laid N R := by
  intro f hf
  obtain ⟨p, hp, hpf⟩ := exists_of_mem_conditionFragments h hf
  refine ih p hp ?_ ?_ f hpf
  · exact fun name hname => hnames name (List.mem_flatMap.mpr ⟨p, hp, hname⟩)
  · exact fun r hr => hraws r (List.mem_flatMap.mpr ⟨p, hp, hr⟩)

/-- What a condition and a query have when their fragments are laid out over what they mention. -/
theorem laid_inherits (hN : NameProperty N) (d : Dialect) :
    Inherits
      (fun p => (∀ name ∈ p.names, N name) → (∀ r ∈ p.raws, R r.1 r.2) →
        ∀ f, p.fragment d = .ok f → f.Laid N R)
      (fun q => (∀ name ∈ q.names, N name) → (∀ r ∈ q.raws, R r.1 r.2) →
        ∀ f, q.selectFragment d = .ok f → f.Laid N R) where
  compare column op v := by
    intro hnames _ f hf
    obtain rfl := Predicate.fragment_eq_ok.mp hf
    have hcolumn : N column := hnames column (by simp [Predicate.names])
    exact (Fragment.Laid.single (p := .value v) trivial).cons_separates (p := .ident column)
      hcolumn op.separates_sql
  inList column values := by
    intro hnames _ f hf
    obtain rfl := Predicate.fragment_eq_ok.mp hf
    have hcolumn : N column := hnames column (by simp [Predicate.names])
    split
    · exact .text rfl
    · have hlist := (Fragment.laid_valueList values).append_of_follows
        (.text rfl : Fragment.Laid N R [.text ")"]) (.cons rfl _)
      have hin := hlist.cons_separates (p := .ident column) (s := " in (") hcolumn ⟨rfl, rfl, rfl⟩
      simpa using hin
  inQuery column query ih := by
    intro hnames hraws f hf
    rw [Predicate.names] at hnames
    rw [Predicate.raws] at hraws
    obtain ⟨select, hselect, rfl⟩ := Predicate.fragment_eq_ok.mp hf
    have hlaid : select.Laid N R :=
      ih (fun name hname => hnames name (List.mem_cons_of_mem column hname)) hraws select hselect
    have hwrapped : (Fragment.wrapped "(" ")" select).Laid N R := hlaid.wrapped rfl rfl rfl rfl
    have hin := hwrapped.cons_separates (p := .ident column) (s := " in ")
      (hnames column (by simp)) ⟨rfl, rfl, rfl⟩
    simpa [Fragment.wrapped] using hin
  isNull column := by
    intro hnames _ f hf
    obtain rfl := Predicate.fragment_eq_ok.mp hf
    exact .cons_of_follows (hnames column (by simp [Predicate.names])) (.text rfl) (.cons rfl _)
  notNull column := by
    intro hnames _ f hf
    obtain rfl := Predicate.fragment_eq_ok.mp hf
    exact .cons_of_follows (hnames column (by simp [Predicate.names])) (.text rfl) (.cons rfl _)
  raw sql values := by
    intro _ hraws f hf
    obtain rfl := Predicate.fragment_eq_ok.mp hf
    exact .single (hraws (sql, values) (by simp [Predicate.raws]))
  and children ih := by
    intro hnames hraws f hf
    rw [Predicate.names, conditionNames_eq] at hnames
    rw [Predicate.raws, conditionRaws_eq] at hraws
    obtain ⟨fs, hfs, rfl⟩ := Predicate.fragment_eq_ok.mp hf
    split
    · exact .text rfl
    · exact (Fragment.Laid.joined (laid_conditions ih hnames hraws hfs) ⟨rfl, rfl, rfl⟩).wrapped
        rfl rfl rfl rfl
  or children ih := by
    intro hnames hraws f hf
    rw [Predicate.names, conditionNames_eq] at hnames
    rw [Predicate.raws, conditionRaws_eq] at hraws
    obtain ⟨fs, hfs, rfl⟩ := Predicate.fragment_eq_ok.mp hf
    split
    · exact .text rfl
    · exact (Fragment.Laid.joined (laid_conditions ih hnames hraws hfs) ⟨rfl, rfl, rfl⟩).wrapped
        rfl rfl rfl rfl
  not child ih := by
    intro hnames hraws f hf
    rw [Predicate.names] at hnames
    rw [Predicate.raws] at hraws
    obtain ⟨inner, hinner, rfl⟩ := Predicate.fragment_eq_ok.mp hf
    exact (ih hnames hraws inner hinner).wrapped rfl rfl rfl rfl
  query q ih := by
    intro hnames hraws f hf
    rw [Query.names_eq] at hnames
    rw [Query.raws_eq] at hraws
    obtain ⟨fs, hfs, hf⟩ := Query.selectFragment_eq_ok.mp hf
    obtain ⟨hown, hconditions⟩ := List.forall_mem_append.mp hnames
    have hwhere := Fragment.laid_whereClause (laid_conditions ih hconditions hraws hfs)
    have horder : (Fragment.orderBy q.ordering).Laid N R ∧ (Fragment.orderBy q.ordering).Follows :=
      Fragment.laid_orderBy fun key hkey => hown _ (Query.mem_ownNames_of_mem_ordering hkey)
    have hhead := (Fragment.laid_selectHead hN d hown).append_of_follows hwhere.1 hwhere.2
    exact Fragment.laid_windowed (hhead.append_of_follows horder.1 horder.2) hf

end PolySql

import PolySql.Proofs.Fragment.Window
import PolySql.Proofs.Identifier
import PolySql.Proofs.Reading.Condition

/-!
# Parentheses in the clauses of a select

In the fragment of a select every parenthesis has its partner (`Fragment.Matched`), as soon as this
holds for its conditions.  So a select between parentheses is one item, and none of its words can be
mistaken for a word of the condition around it.
-/

namespace PolySql

/-! ### Pieces without parentheses -/

theorem Lexeme.mem_ofName {name : String} {l : Lexeme} (h : l ∈ ofName name) :
    (∃ c ∈ ['.', '*'], l = .sign c) ∨ ∃ s, l = .quoted s := by
  rcases mem_of_mem_intercalate h with h | ⟨part, hpart, h⟩
  · exact .inl ⟨'.', by simp, List.mem_singleton.mp h⟩
  · obtain ⟨segment, -, rfl⟩ := List.mem_map.mp hpart
    unfold ofSegment at h
    split at h
    · exact .inl ⟨'*', by simp, List.mem_singleton.mp h⟩
    · exact .inr ⟨_, List.mem_singleton.mp h⟩

namespace Piece

theorem parenFree_ident (name : String) : ParenFree (Piece.ident name).lexemes := by
  intro l hl
  rcases Lexeme.mem_ofName hl with ⟨c, hc, rfl⟩ | ⟨s, rfl⟩
  · constructor <;>
    · rintro h
      obtain rfl := Lexeme.sign.inj h
      exact absurd hc (by decide)
  · simp

theorem parenFree_bound (b : Binding) : ParenFree (Piece.bound b).lexemes := by
  simp [ParenFree, lexemes]

end Piece

namespace Fragment

/-! ### Matched fragments -/

@[simp] theorem lexemes_nil : lexemes [] = [] := rfl

@[simp] theorem lexemes_cons (p : Piece) (f : Fragment) :
    lexemes (p :: f) = p.lexemes ++ lexemes f := rfl

@[simp] theorem lexemes_append (f g : Fragment) : lexemes (f ++ g) = lexemes f ++ lexemes g :=
  List.flatMap_append

theorem lexemes_joined (separator : String) (fs : List Fragment) :
    (joined separator fs).lexemes =
      List.intercalate (Piece.text separator).lexemes (fs.map lexemes) := by
  induction fs with
  | nil => rfl
  | cons f fs ih =>
    cases fs with
    | nil => simp
    | cons g fs =>
      rw [joined_cons_cons, lexemes_append, lexemes_cons, ih]
      simp only [List.map_cons, List.intercalate_cons_cons, List.append_assoc]

/-- A fragment in which every parenthesis has its partner. -/
def Matched (f : Fragment) : Prop :=
  ∃ items, Grouped f.lexemes items

theorem Matched.nil : Matched [] :=
  ⟨[], .nil⟩

theorem Matched.append {f g : Fragment} (hf : Matched f) (hg : Matched g) : Matched (f ++ g) := by
  obtain ⟨items, hitems⟩ := hf
  obtain ⟨others, hothers⟩ := hg
  exact ⟨items ++ others, lexemes_append f g ▸ hitems.append hothers⟩

/-- A piece without parentheses before a matched fragment. -/
theorem Matched.cons {p : Piece} {f : Fragment} (hf : Matched f) (hp : ParenFree p.lexemes) :
    Matched (p :: f) := by
  obtain ⟨items, hitems⟩ := hf
  exact ⟨_, (Grouped.leaves hp).append hitems⟩

/-- Pieces without parentheses. -/
theorem Matched.of_forall {f : Fragment} (h : ∀ p ∈ f, ParenFree p.lexemes) : Matched f := by
  induction f with
  | nil => exact .nil
  | cons p f ih =>
    obtain ⟨hp, hf⟩ := List.forall_mem_cons.mp h
    exact (ih hf).cons hp

theorem Matched.flatten {fs : List Fragment} (h : ∀ f ∈ fs, Matched f) : Matched fs.flatten := by
  induction fs with
  | nil => exact .nil
  | cons f fs ih =>
    obtain ⟨hf, hfs⟩ := List.forall_mem_cons.mp h
    exact hf.append (ih hfs)

theorem Matched.joined {separator : String} {fs : List Fragment} (h : ∀ f ∈ fs, Matched f)
    (hs : ParenFree (Piece.text separator).lexemes) : Matched (joined separator fs) := by
  induction fs with
  | nil => exact .nil
  | cons f fs ih =>
    obtain ⟨hf, hfs⟩ := List.forall_mem_cons.mp h
    cases fs with
    | nil => simpa using hf
    | cons g fs =>
      rw [joined_cons_cons]
      exact hf.append ((ih hfs).cons hs)

/-- Texts around a fragment, the first of which opens a parenthesis that the second one closes. -/
theorem Matched.wrapped {before after : String} {opening closing : List Lexeme} {f : Fragment}
    (hf : Matched f) (hbefore : (Piece.text before).lexemes = opening ++ [.sign '('])
    (hafter : (Piece.text after).lexemes = .sign ')' :: closing) (hopening : ParenFree opening)
    (hclosing : ParenFree closing) : Matched (wrapped before after f) := by
  obtain ⟨items, hitems⟩ := hf
  have hlexemes : (Fragment.wrapped before after f).lexemes =
      opening ++ ((.sign '(' :: f.lexemes ++ [.sign ')']) ++ closing) := by
    simp [Fragment.wrapped, hbefore, hafter]
  rw [Matched, hlexemes]
  exact ⟨_, (Grouped.leaves hopening).append (hitems.parens.append (.leaves hclosing))⟩

/-! ### The clauses of a select -/

theorem matched_selectList (style : AliasStyle) (items : List String) :
    Matched (selectList style items) := by
  unfold selectList
  split
  · exact Matched.nil.cons (by decide)
  · refine Matched.joined ?_ (by decide)
    intro f hf
    obtain ⟨item, -, rfl⟩ := List.mem_map.mp hf
    unfold selectItem
    split
    · have hseparator : ParenFree (Piece.text style.separator).lexemes := by
        cases style <;> decide
      exact ((Matched.nil.cons (Piece.parenFree_ident _)).cons hseparator).cons
        (Piece.parenFree_ident _)
    · exact Matched.nil.cons (Piece.parenFree_ident _)

theorem matched_join (j : Join) : Matched (join j) := by
  have hop : ParenFree (Piece.text (" " ++ j.op.sql ++ " ")).lexemes := by
    cases j.op <;> decide
  have hwords : ParenFree (Piece.text j.kind.words).lexemes := by
    cases j.kind <;> decide
  have hon : ParenFree (Piece.text " on ").lexemes := by decide
  have hcondition := ((Matched.nil.cons (Piece.parenFree_ident j.right)).cons hop).cons
    (Piece.parenFree_ident j.left)
  exact ((hcondition.cons hon).cons (Piece.parenFree_ident j.table)).cons hwords

theorem matched_selectHead (d : Dialect) (q : Query) : Matched (selectHead d q) := by
  have hjoins : Matched (q.joins.flatMap join) := by
    refine Matched.flatten ?_
    intro f hf
    obtain ⟨j, -, rfl⟩ := List.mem_map.mp hf
    exact matched_join j
  have htable : Matched [.text " from ", .ident q.table] :=
    (Matched.nil.cons (Piece.parenFree_ident q.table)).cons (by decide)
  have hselect : Matched [.text (if q.distinct then "select distinct " else "select ")] := by
    split <;> exact Matched.nil.cons (by decide)
  exact ((hselect.append (matched_selectList d.aliasStyle q.selectColumns)).append htable).append
    hjoins

theorem matched_orderBy (keys : List OrderKey) : Matched (orderBy keys) := by
  unfold orderBy
  split
  · exact .nil
  · refine Matched.cons (Matched.joined ?_ (by decide)) (by decide)
    intro f hf
    obtain ⟨key, -, rfl⟩ := List.mem_map.mp hf
    have hword : ParenFree (Piece.text key.direction.word).lexemes := by
      cases key.direction <;> decide
    exact (Matched.nil.cons hword).cons (Piece.parenFree_ident key.column)

theorem matched_valueList (values : List Value) : Matched (valueList values) := by
  refine Matched.joined ?_ (by decide)
  intro f hf
  obtain ⟨v, -, rfl⟩ := List.mem_map.mp hf
  exact Matched.nil.cons (Piece.parenFree_bound _)

theorem matched_whereClause {conditions : List Fragment} (h : ∀ f ∈ conditions, Matched f) :
    Matched (whereClause conditions) := by
  unfold whereClause
  split
  · exact .nil
  · exact Matched.cons (Matched.joined h (by decide)) (by decide)

/-! ### Windows -/

theorem parenFree_value (v : Value) : ParenFree (Piece.value v).lexemes :=
  Piece.parenFree_bound _

theorem matched_limitOffset (requiresLimit ordered : Bool) (limit offset : Option UInt64) :
    Matched (windowClosing (.limitOffset requiresLimit) ordered limit offset) := by
  have hlimit : ParenFree (Piece.text " limit ").lexemes := by decide
  have hoffset : ParenFree (Piece.text " offset ").lexemes := by decide
  refine .of_forall ?_
  cases limit <;> cases offset <;> cases requiresLimit <;>
    simp [windowClosing, parenFree_value, hlimit, hoffset]

/-- Where an order has to be there, the window may bring one, with a select of its own. -/
theorem matched_offsetFetch (ordered : Bool) (limit offset : Option UInt64) :
    Matched (windowClosing .offsetFetch ordered limit offset) := by
  have hoffset : ParenFree (Piece.text " offset ").lexemes := by decide
  have hrows : ParenFree (Piece.text " rows").lexemes := by decide
  have hfetch : ParenFree (Piece.text " fetch next ").lexemes := by decide
  have honly : ParenFree (Piece.text " rows only").lexemes := by decide
  have hordering : Matched (if ordered then [] else [.text " order by (select 0)"]) := by
    have hkeys : ParenFree [.word "order", .word "by"] := by decide
    have hselect : ParenFree [.word "select", .word "0"] := by decide
    split
    · exact .nil
    · exact ⟨_, (Grouped.leaves hkeys).append (Grouped.leaves hselect).parens⟩
  cases limit with
  | none =>
    cases offset with
    | none => exact .nil
    | some m =>
      refine (hordering.append (.of_forall ?_)).append .nil
      simp [parenFree_value, hoffset, hrows]
  | some n =>
    cases offset <;>
    · refine (hordering.append (.of_forall ?_)).append (.of_forall ?_)
      · simp [parenFree_value, hoffset, hrows]
      · simp [parenFree_value, hfetch, honly]

/-- Every select that a window by row numbers puts around another one closes what it opens. -/
theorem matched_rowNum {f : Fragment} (hf : Matched f) (ordered : Bool)
    (limit offset : Option UInt64) :
    Matched (windowOpening .rowNum limit offset ++ f ++
      windowClosing .rowNum ordered limit offset) := by
  have hrows : (Piece.text "select * from (").lexemes =
      [.word "select", .sign '*', .word "from"] ++ [.sign '('] := rfl
  cases offset with
  | none =>
    cases limit with
    | none => simpa [windowOpening, windowClosing] using hf
    | some n =>
      have hend : (Piece.text ") where rownum <= ").lexemes =
          .sign ')' :: [.word "where", .word "rownum", .word "<="] := rfl
      have hselect := hf.wrapped hrows hend (by decide) (by decide)
      simpa [windowOpening, windowClosing, Fragment.wrapped] using
        hselect.append (Matched.nil.cons (parenFree_value (boundValue (windowEnd (some n) 0))))
  | some m =>
    have hnumbers : (Piece.text "select row_.*, ROWNUM rownum_ from (").lexemes =
        [.word "select", .word "row_", .sign '.', .sign '*', .sign ',', .word "ROWNUM",
          .word "rownum_", .word "from"] ++ [.sign '('] := rfl
    have hend : (Piece.text ") row_ where rownum <= ").lexemes =
        .sign ')' :: [.word "row_", .word "where", .word "rownum", .word "<="] := rfl
    have hstart : (Piece.text ") where rownum_ > ").lexemes =
        .sign ')' :: [.word "where", .word "rownum_", .word ">"] := rfl
    have hinner := hf.wrapped hnumbers hend (by decide) (by decide)
    have hlast :=
      hinner.append (Matched.nil.cons (parenFree_value (boundValue (windowEnd limit m.toNat))))
    have hselect := hlast.wrapped hrows hstart (by decide) (by decide)
    simpa [windowOpening, windowClosing, Fragment.wrapped] using
      hselect.append (Matched.nil.cons (parenFree_value (boundValue m.toNat)))

theorem matched_windowed {strategy : LimitStrategy} {ordered : Bool} {f g : Fragment}
    {limit offset : Option UInt64} (hf : Matched f)
    (h : windowed strategy ordered f limit offset = .ok g) : Matched g := by
  rw [windowed_eq_ok h]
  cases strategy with
  | limitOffset requiresLimit =>
    exact hf.append (matched_limitOffset requiresLimit ordered limit offset)
  | offsetFetch => exact hf.append (matched_offsetFetch ordered limit offset)
  | rowNum => exact matched_rowNum hf ordered limit offset

end Fragment

end PolySql

import PolySql.Proofs.Reading.Level
import PolySql.Proofs.Reading.Literal
import PolySql.Proofs.Reading.WhereClause

/-!
# Conditions in SQL beside other conditions

A condition in SQL is written as it stands, without parentheses around it, so the words next to it
bind parts of it as they bind everything else.  `Predicate.level` is what a predicate is on its level
of parentheses, and the clause of conditions is read as those levels with `and` between them
(`readWhere_whereClause_raws`): the last alternative of a condition in SQL is joined with what comes
after it, the first one with what comes before it, and alternatives in between stand for themselves.

So the clause means that all conditions hold where those with alternatives stand alone or between
parentheses (`RawMeaning.eval_clause`).  One that is added to other conditions can let in rows that
these exclude (`RawMeaning.eval_clause_of_alternative`).
-/

namespace PolySql

/-! ### What conditions in SQL mean -/

/-- Read a condition in SQL as a level. -/
def readRaw (d : Dialect) (sql : String) : Option (Level (List Lexeme)) :=
  (scanText d sql).bind fun ls => (nest [] [] ls).bind readLevel

/-- What conditions in SQL mean: the atomic conditions in them with their words, and the level that
each text with its values is. -/
structure RawMeaning where
  Atom : Type
  text : Atom → List Lexeme
  level : String → List Value → Level Atom

namespace RawMeaning

/-- Whether all of the given conditions in SQL can be read by themselves, as what they mean. -/
def Explains (m : RawMeaning) (d : Dialect) (raws : List (String × List Value)) : Prop :=
  ∀ r ∈ raws, readRaw d r.1 = some ((m.level r.1 r.2).map m.text)

/-- Conditions in SQL that mean what is read, with their words as atomic conditions. -/
def ofReader (d : Dialect) : RawMeaning where
  Atom := List Lexeme
  text := id
  level sql _ := (readRaw d sql).getD []

/-- Everything that can be read means something. -/
theorem explains_ofReader {d : Dialect} {raws : List (String × List Value)}
    (h : ∀ r ∈ raws, (readRaw d r.1).isSome) : (ofReader d).Explains d raws := by
  intro r hr
  obtain ⟨L, hL⟩ := Option.isSome_iff_exists.mp (h r hr)
  have hlevel : (ofReader d).level r.1 r.2 = L := by
    change (readRaw d r.1).getD [] = L
    rw [hL, Option.getD_some]
  rw [hL, hlevel]
  exact congrArg some L.map_id.symm

variable {m : RawMeaning} {d : Dialect}

theorem Explains.isSome_scanText {raws : List (String × List Value)} (h : m.Explains d raws) :
    ∀ r ∈ raws, (scanText d r.1).isSome := by
  intro r hr
  have hread := h r hr
  rw [readRaw, Option.bind_eq_some_iff] at hread
  obtain ⟨ls, hls, -⟩ := hread
  rw [hls]
  rfl

end RawMeaning

/-! ### Predicates as levels -/

/-- The lexemes of a predicate; it has none if it cannot be written. -/
def Predicate.words (d : Dialect) (p : Predicate) : List Lexeme :=
  match p.fragment d with
  | .ok f => f.textLexemes d
  | .error _ => []

/-- The lexemes of atomic predicates, and those of atomic conditions in SQL. -/
def RawMeaning.words (m : RawMeaning) (d : Dialect) : Predicate ⊕ m.Atom → List Lexeme :=
  Sum.elim (Predicate.words d) m.text

mutual

/-- What a predicate is on its level: one condition, unless it is a condition in SQL. -/
def Predicate.level (m : RawMeaning) : Predicate → Level (Predicate ⊕ m.Atom)
  | .inList column values =>
    [[if values.isEmpty then .const false else .atom (.inl (.inList column values))]]
  | .raw sql values => (m.level sql values).map .inr
  | .and children => [[(Connective.and.joinLevels (conditionLevels m children)).condition]]
  | .or children => [[(Connective.or.joinLevels (conditionLevels m children)).condition]]
  | .not child => [[.not (child.level m).condition]]
  | p => [[.atom (.inl p)]]

/-- What predicates are, each of them on its level. -/
def conditionLevels (m : RawMeaning) : List Predicate → List (Level (Predicate ⊕ m.Atom))
  | [] => []
  | p :: ps => p.level m :: conditionLevels m ps

end

theorem conditionLevels_eq (m : RawMeaning) (ps : List Predicate) :
    conditionLevels m ps = ps.map (Predicate.level m) := by
  induction ps with
  | nil => rfl
  | cons p ps ih => rw [conditionLevels, ih, List.map_cons]

/-! ### Reading fragments as levels -/

namespace Fragment

variable {d : Dialect} {α : Type} {t : α → List Lexeme} {f g : Fragment} {L M : Level α}

/-- A fragment that is read as a level, wherever it stands. -/
def ReadAs (d : Dialect) (t : α → List Lexeme) (f : Fragment) (L : Level α) : Prop :=
  ∃ items, Grouped (f.textLexemes d) items ∧ Reads t items L

namespace ReadAs

theorem balanced (h : f.ReadAs d t L) : PolySql.balanced 0 (f.textLexemes d) := by
  obtain ⟨items, hitems, -⟩ := h
  exact hitems.balanced

theorem ne_nil (h : f.ReadAs d t L) : L ≠ [] := by
  obtain ⟨items, -, hreads⟩ := h
  exact hreads.ne_nil

/-- A name with what completes it is one atomic condition. -/
theorem of_name {a : α} (column : String) {ls : List Lexeme}
    (hf : f.textLexemes d = Lexeme.ofName column ++ ls) (h : Completes ls)
    (ha : t a = f.textLexemes d) : f.ReadAs d t [[.atom a]] := by
  obtain ⟨items, hitems, hundivided⟩ := h
  refine ⟨(Lexeme.ofName column).map .leaf ++ items, ?_, .of_operand ?_⟩
  · rw [hf]
    exact (Grouped.leaves (Piece.parenFree_ident column)).append hitems
  · rw [Condition.map, ha, hf]
    exact operand_ofName column hitems hundivided

/-- A comparison of numerals is decided. -/
theorem of_const {ls : List Lexeme} {b : Bool} (hf : f.textLexemes d = ls) (hls : ParenFree ls)
    (h : Operand (ls.map .leaf) (.const b)) : f.ReadAs d t [[.const b]] := by
  subst hf
  exact ⟨_, .leaves hls, .of_operand h⟩

/-- A condition in SQL is read beside others as it is read by itself. -/
theorem of_raw {sql : String} {values : List Value} (h : readRaw d sql = some (L.map t)) :
    ReadAs d t [.raw sql values] L := by
  rw [readRaw, Option.bind_eq_some_iff] at h
  obtain ⟨ls, hls, h⟩ := h
  obtain ⟨items, hitems, hlevel⟩ := Option.bind_eq_some_iff.mp h
  have htext : textLexemes d [.raw sql values] = ls := by
    rw [textLexemes_cons, textLexemes_nil, List.append_nil, Piece.textLexemes, hls,
      Option.getD_some]
  exact ⟨items, htext ▸ grouped_of_nest hitems, reads_of_readLevel hlevel⟩

/-- Fragments with a word between them are read as their levels with that word between them. -/
theorem joins (hf : f.ReadAs d t L) (k : Connective) (hg : g.ReadAs d t M) :
    (f ++ .text k.separator :: g).ReadAs d t (k.joins L M) := by
  obtain ⟨items, hitems, hreads⟩ := hf
  obtain ⟨others, hothers, hreads'⟩ := hg
  have hword : k.item.isKeyword k.word := by simp [Connective.isKeyword_item]
  have hseparator : (Piece.text k.separator).textLexemes d = [.word k.word] := k.lexemes_separator
  refine ⟨items ++ k.item :: others, ?_, hreads.joins hword hreads'⟩
  rw [textLexemes_append, textLexemes_cons, hseparator]
  exact hitems.append (k.grouped_item.append hothers)

/-- Any number of fragments with a word between neighbours; there has to be one of them. -/
theorem joined (k : Connective) {fs : List Fragment} {Ls : List (Level α)}
    (h : List.Forall₂ (ReadAs d t) fs Ls) (hne : Ls ≠ []) :
    (Fragment.joined k.separator fs).ReadAs d t (k.joinLevels Ls) := by
  induction h with
  | nil => exact absurd rfl hne
  | @cons f L fs Ls hf hfs ih =>
    cases hfs with
    | nil => rwa [joined_singleton, Connective.joinLevels_singleton]
    | cons hg hrest =>
      rw [joined_cons_cons, Connective.joinLevels_cons]
      exact hf.joins k (ih (List.cons_ne_nil _ _))

/-- Parentheses make one condition of a level, which no word around it can take apart. -/
theorem parens (h : f.ReadAs d t L) : (wrapped "(" ")" f).ReadAs d t [[L.condition]] := by
  obtain ⟨items, hitems, hreads⟩ := h
  have htext : (wrapped "(" ")" f).textLexemes d =
      .sign '(' :: f.textLexemes d ++ [.sign ')'] := by
    have hopen : (Piece.text "(").textLexemes d = [.sign '('] := rfl
    have hclose : (Piece.text ")").textLexemes d = [.sign ')'] := rfl
    simp [Fragment.wrapped, hopen, hclose]
  exact ⟨_, htext ▸ hitems.parens, hreads.group⟩

theorem not (h : f.ReadAs d t L) :
    (wrapped "not (" ")" f).ReadAs d t [[.not L.condition]] := by
  obtain ⟨items, hitems, hreads⟩ := h
  have htext : (wrapped "not (" ")" f).textLexemes d =
      [.word "not"] ++ (.sign '(' :: f.textLexemes d ++ [.sign ')']) := by
    have hopen : (Piece.text "not (").textLexemes d = [.word "not", .sign '('] := rfl
    have hclose : (Piece.text ")").textLexemes d = [.sign ')'] := rfl
    simp [Fragment.wrapped, hopen, hclose]
  have hword : Grouped [.word "not"] [.leaf (.word "not")] := .leaf (by simp) (by simp)
  have hgroup : Operand [.group (f.textLexemes d) (readItems items)] (L.condition.map t) :=
    .group hreads.readItems_eq
  exact ⟨_, htext ▸ hword.append hitems.parens, .of_operand hgroup.not⟩

end ReadAs

end Fragment

/-! ### Reading predicates as levels -/

section Predicates

variable {m : RawMeaning} {d : Dialect}

theorem Predicate.words_of_fragment {p : Predicate} {f : Fragment} (h : p.fragment d = .ok f) :
    m.words d (.inl p) = f.textLexemes d := by
  change p.words d = f.textLexemes d
  rw [Predicate.words, h]

/-- Fragments of predicates are read as their levels as soon as each of them is. -/
theorem forall₂_readAs {ps : List Predicate} {fs : List Fragment}
    (ih : ∀ p ∈ ps, m.Explains d p.raws → ∀ f, p.fragment d = .ok f →
      f.ReadAs d (m.words d) (p.level m))
    (hm : m.Explains d (ps.flatMap Predicate.raws)) (h : conditionFragments d ps = .ok fs) :
    List.Forall₂ (Fragment.ReadAs d (m.words d)) fs (ps.map (Predicate.level m)) := by
  induction conditionFragments_eq_ok.mp h with
  | nil => exact .nil
  | @cons p f ps fs hf hfs ihs =>
    obtain ⟨hp, hps⟩ := List.forall_mem_cons.mp ih
    rw [List.flatMap_cons] at hm
    have hhead : m.Explains d p.raws := fun r hr => hm r (List.mem_append_left _ hr)
    have htail : m.Explains d (ps.flatMap Predicate.raws) := fun r hr =>
      hm r (List.mem_append_right _ hr)
    exact .cons (hp hhead f hf) (ihs hps htail (conditionFragments_eq_ok.mpr hfs))

/-- The parentheses of a select are in pairs as soon as those of its conditions are. -/
theorem balanced_selectFragment {q : Query} {fs : List Fragment} {f : Fragment}
    (hwhere : balanced 0 ((Fragment.whereClause fs).textLexemes d))
    (hf : Fragment.windowed d.limitStrategy (!q.ordering.isEmpty)
      (Fragment.selectHead d q ++ Fragment.whereClause fs ++ Fragment.orderBy q.ordering)
      q.rowLimit q.offset = .ok f) : balanced 0 (f.textLexemes d) := by
  obtain ⟨hfits, rfl⟩ := Fragment.windowed_eq_ok_iff.mp hf
  -- without its conditions, the select has neither conditions in SQL nor parentheses out of pairs
  obtain ⟨plain, hplain⟩ : ∃ plain, Fragment.windowed d.limitStrategy (!q.ordering.isEmpty)
      (Fragment.selectHead d q ++ Fragment.orderBy q.ordering) q.rowLimit q.offset = .ok plain :=
    ⟨_, Fragment.windowed_eq_ok_iff.mpr ⟨hfits, rfl⟩⟩
  have hmatched : Fragment.Matched plain := Fragment.matched_windowed
    ((Fragment.matched_selectHead d q).append (Fragment.matched_orderBy q.ordering)) hplain
  have hhead : (Fragment.selectHead d q).Laid (fun _ => True) fun _ _ => False :=
    Fragment.laid_selectHead nameProperty_true d fun _ _ => trivial
  have horder := Fragment.laid_orderBy (N := fun _ => True) (R := fun _ _ => False)
    fun key (_ : key ∈ q.ordering) => trivial
  have hlaid := Fragment.laid_windowed (hhead.append_of_follows horder.1 horder.2) hplain
  have hbalanced : balanced 0 (plain.textLexemes d) := by
    obtain ⟨items, hitems⟩ := hmatched
    rw [Fragment.textLexemes_eq_lexemes hlaid]
    exact hitems.balanced
  rw [Fragment.windowed_eq_ok hplain] at hbalanced
  simp only [Fragment.textLexemes_append, List.append_assoc] at hbalanced ⊢
  have hinsert := balanced_insert hwhere 0
    ((Fragment.windowOpening d.limitStrategy q.rowLimit q.offset).textLexemes d ++
      (Fragment.selectHead d q).textLexemes d)
    ((Fragment.orderBy q.ordering).textLexemes d ++
      (Fragment.windowClosing d.limitStrategy (!q.ordering.isEmpty) q.rowLimit
        q.offset).textLexemes d)
  simp only [List.append_assoc] at hinsert
  rw [hinsert]
  exact hbalanced

/-- The clause of conditions that are read as levels, and what it is read as. -/
theorem readWhere_of_forall₂ {α : Type} {t : α → List Lexeme} {fs : List Fragment}
    {Ls : List (Level α)} (h : List.Forall₂ (Fragment.ReadAs d t) fs Ls) :
    balanced 0 ((Fragment.whereClause fs).textLexemes d) ∧
      readWhere ((Fragment.whereClause fs).textLexemes d) =
        some ((Connective.and.joinLevels Ls).condition.map t) := by
  cases h with
  | nil => exact ⟨rfl, rfl⟩
  | @cons f L fs Ls hf hfs =>
    obtain ⟨items, hitems, hreads⟩ :=
      Fragment.ReadAs.joined .and (.cons hf hfs) (List.cons_ne_nil L Ls)
    have hclause : (Fragment.whereClause (f :: fs)).textLexemes d =
        .word "where" :: (Fragment.joined " and " (f :: fs)).textLexemes d := rfl
    have hwhere : (Lexeme.word "where").isKeyword "where" = true := by decide
    rw [hclause]
    refine ⟨hitems.balanced, ?_⟩
    rw [readWhere, if_pos hwhere]
    exact (congrArg (Option.bind · readItems) hitems.nest_eq).trans hreads.readItems_eq

/-- Predicates are read as their levels, and the parentheses in the selects of queries are in
pairs, where conditions in SQL can be read by themselves. -/
theorem readAs_inherits (m : RawMeaning) (d : Dialect) :
    Inherits
      (fun p => m.Explains d p.raws → ∀ f, p.fragment d = .ok f →
        f.ReadAs d (m.words d) (p.level m))
      (fun q => m.Explains d q.raws → ∀ f, q.selectFragment d = .ok f →
        balanced 0 (f.textLexemes d)) where
  compare column op v := by
    intro _ f hf
    have hwords := Predicate.words_of_fragment (m := m) hf
    obtain rfl := Predicate.fragment_eq_ok.mp hf
    exact .of_name column (lexemes_compare column op v) op.completes hwords
  inList column values := by
    intro _ f hf
    have hwords := Predicate.words_of_fragment (m := m) hf
    obtain rfl := Predicate.fragment_eq_ok.mp hf
    cases values with
    | nil =>
      have htext : Fragment.textLexemes d [.text "1 = 0"] = [.word "1", .word "=", .word "0"] := rfl
      exact .of_const htext (by decide) operand_one_eq_zero
    | cons value values =>
      obtain ⟨items, hitems⟩ := Fragment.matched_valueList (value :: values)
      have hlaid := (laid_inherits (R := fun _ _ => False) nameProperty_true d).inList column
        (value :: values) (fun _ _ => trivial) (by simp [Predicate.raws]) _ hf
      have htext := Fragment.textLexemes_eq_lexemes (d := d) hlaid
      have hlist := htext.trans (lexemes_inList column (value :: values))
      exact .of_name column hlist (.membership hitems) hwords
  inQuery column query ih := by
    intro hm f hf
    have hwords := Predicate.words_of_fragment (m := m) hf
    rw [Predicate.raws] at hm
    obtain ⟨select, hselect, rfl⟩ := Predicate.fragment_eq_ok.mp hf
    obtain ⟨items, hitems⟩ := exists_grouped_of_balanced (ih hm select hselect)
    have hin : (Piece.text " in ").textLexemes d = [.word "in"] := rfl
    have hopen : (Piece.text "(").textLexemes d = [.sign '('] := rfl
    have hclose : (Piece.text ")").textLexemes d = [.sign ')'] := rfl
    have hname : (Piece.ident column).textLexemes d = Lexeme.ofName column := rfl
    refine .of_name column ?_ (.membership hitems) hwords
    simp [hname, hin, hopen, hclose]
  isNull column := by
    intro _ f hf
    have hwords := Predicate.words_of_fragment (m := m) hf
    obtain rfl := Predicate.fragment_eq_ok.mp hf
    exact .of_name column (lexemes_isNull column) completes_isNull hwords
  notNull column := by
    intro _ f hf
    have hwords := Predicate.words_of_fragment (m := m) hf
    obtain rfl := Predicate.fragment_eq_ok.mp hf
    exact .of_name column (lexemes_notNull column) completes_notNull hwords
  raw sql values := by
    intro hm f hf
    obtain rfl := Predicate.fragment_eq_ok.mp hf
    have hread := hm (sql, values) (by simp [Predicate.raws])
    refine .of_raw ?_
    rw [hread, Predicate.level, Level.map_map]
    rfl
  and children ih := by
    intro hm f hf
    rw [Predicate.raws, conditionRaws_eq] at hm
    obtain ⟨fs, hfs, rfl⟩ := Predicate.fragment_eq_ok.mp hf
    have hreads := forall₂_readAs ih hm hfs
    rw [Predicate.level, conditionLevels_eq]
    cases children with
    | nil =>
      have htext : Fragment.textLexemes d [.text "1 = 1"] = [.word "1", .word "=", .word "1"] := rfl
      exact .of_const htext (by decide) operand_one_eq_one
    | cons child children => exact (Fragment.ReadAs.joined .and hreads (by simp)).parens
  or children ih := by
    intro hm f hf
    rw [Predicate.raws, conditionRaws_eq] at hm
    obtain ⟨fs, hfs, rfl⟩ := Predicate.fragment_eq_ok.mp hf
    have hreads := forall₂_readAs ih hm hfs
    rw [Predicate.level, conditionLevels_eq]
    cases children with
    | nil =>
      have htext : Fragment.textLexemes d [.text "1 = 0"] = [.word "1", .word "=", .word "0"] := rfl
      exact .of_const htext (by decide) operand_one_eq_zero
    | cons child children => exact (Fragment.ReadAs.joined .or hreads (by simp)).parens
  not child ih := by
    intro hm f hf
    rw [Predicate.raws] at hm
    obtain ⟨inner, hinner, rfl⟩ := Predicate.fragment_eq_ok.mp hf
    rw [Predicate.level]
    exact (ih hm inner hinner).not
  query q ih := by
    intro hm f hf
    rw [Query.raws_eq] at hm
    obtain ⟨fs, hfs, hf⟩ := Query.selectFragment_eq_ok.mp hf
    exact balanced_selectFragment (readWhere_of_forall₂ (forall₂_readAs ih hm hfs)).1 hf

theorem readAs_conditions {ps : List Predicate} {fs : List Fragment}
    (hm : m.Explains d (conditionRaws ps)) (h : conditionFragments d ps = .ok fs) :
    List.Forall₂ (Fragment.ReadAs d (m.words d)) fs (ps.map (Predicate.level m)) := by
  rw [conditionRaws_eq] at hm
  exact forall₂_readAs (fun p _ => Predicate.of_inherits (readAs_inherits m d) p) hm h

end Predicates

/-! ### What levels of predicates mean -/

mutual

/-- The lists of conditions in a predicate that have to hold together, at any depth outside of
queries. -/
def Predicate.conjunctions : Predicate → List (List Predicate)
  | .and children => children :: conditionConjunctions children
  | .or children => conditionConjunctions children
  | .not child => child.conjunctions
  | _ => []

/-- The lists of conditions in predicates that have to hold together, at any depth outside of
queries. -/
def conditionConjunctions : List Predicate → List (List Predicate)
  | [] => []
  | p :: ps => p.conjunctions ++ conditionConjunctions ps

end

theorem conditionConjunctions_eq (ps : List Predicate) :
    conditionConjunctions ps = ps.flatMap Predicate.conjunctions := by
  induction ps with
  | nil => rfl
  | cons p ps ih => rw [conditionConjunctions, ih, List.flatMap_cons]

namespace RawMeaning

variable {m : RawMeaning}

/-- The values of predicates, those in SQL evaluated as a whole. -/
def value (m : RawMeaning) (v : Predicate ⊕ m.Atom → Bool) : Predicate → Bool
  | .raw sql values => (m.level sql values).eval fun a => v (.inr a)
  | p => v (.inl p)

/-- Conditions that no `and` between them can take apart: there is only one of them, or none of them
has alternatives on its level. -/
def Apart (m : RawMeaning) (ps : List Predicate) : Prop :=
  ps.length ≤ 1 ∨ ∀ p ∈ ps, (p.level m).length = 1

/-- What the clause of conditions is read as. -/
def clause (m : RawMeaning) (ps : List Predicate) : Condition (Predicate ⊕ m.Atom) :=
  (Connective.and.joinLevels (ps.map (Predicate.level m))).condition

/-- Levels with a word between them have the value of their predicates together, if each of them has
the value of its own. -/
theorem eval_joinLevels {v : Predicate ⊕ m.Atom → Bool} {k : Connective} {ps : List Predicate}
    (h : k = .and → m.Apart ps)
    (ih : ∀ p ∈ ps, (p.level m).eval v = p.holds (m.value v)) :
    (k.joinLevels (ps.map (Predicate.level m))).eval v =
      k.value (ps.map (Predicate.holds (m.value v))) := by
  have hlevels : (ps.map (Predicate.level m)).map (Level.eval v) =
      ps.map (Predicate.holds (m.value v)) := by
    rw [List.map_map]
    exact List.map_congr_left ih
  rw [← hlevels]
  refine Connective.eval_joinLevels fun hk => ?_
  rcases h hk with hlength | hall
  · exact .inl (by rwa [List.length_map])
  · exact .inr (List.forall_mem_map.mpr hall)

/-- A level has the value of its predicate where no conjunction in it is taken apart. -/
theorem eval_level_inherits (v : Predicate ⊕ m.Atom → Bool) :
    Inherits
      (fun p => (∀ cs ∈ p.conjunctions, m.Apart cs) →
        (p.level m).eval v = p.holds (m.value v))
      (fun _ => True) where
  compare column op value _ := Level.eval_single v (.atom (.inl (.compare column op value)))
  inList column values := by
    intro _
    rw [Predicate.level, Level.eval_single, Predicate.holds]
    cases values <;> rfl
  inQuery column query _ _ := Level.eval_single v (.atom (.inl (.inQuery column query)))
  isNull column _ := Level.eval_single v (.atom (.inl (.isNull column)))
  notNull column _ := Level.eval_single v (.atom (.inl (.notNull column)))
  raw sql values := by
    intro _
    rw [Predicate.level, Level.eval_map]
    rfl
  and children ih := by
    intro h
    rw [Predicate.conjunctions, conditionConjunctions_eq] at h
    obtain ⟨happart, hchildren⟩ := List.forall_mem_cons.mp h
    have hinner : ∀ p ∈ children, (p.level m).eval v = p.holds (m.value v) := fun p hp =>
      ih p hp fun cs hcs => hchildren cs (List.mem_flatMap.mpr ⟨p, hp, hcs⟩)
    rw [Predicate.level, conditionLevels_eq, Level.eval_single, Level.eval_condition,
      eval_joinLevels (fun _ => happart) hinner, Predicate.holds, allHold_eq]
  or children ih := by
    intro h
    rw [Predicate.conjunctions, conditionConjunctions_eq] at h
    have hinner : ∀ p ∈ children, (p.level m).eval v = p.holds (m.value v) := fun p hp =>
      ih p hp fun cs hcs => h cs (List.mem_flatMap.mpr ⟨p, hp, hcs⟩)
    rw [Predicate.level, conditionLevels_eq, Level.eval_single, Level.eval_condition,
      eval_joinLevels (by simp) hinner, Predicate.holds, someHolds_eq]
  not child ih := by
    intro h
    rw [Predicate.conjunctions] at h
    rw [Predicate.level, Level.eval_single, Condition.eval, Level.eval_condition, ih h,
      Predicate.holds]
  query _ _ := trivial

/-! ### What the clause means -/

variable {v : Predicate ⊕ m.Atom → Bool} {ps : List Predicate}

/-- Where no conjunction is taken apart, the clause holds if and only if all conditions do. -/
theorem eval_clause (h : ∀ cs ∈ ps :: conditionConjunctions ps, m.Apart cs) :
    (m.clause ps).eval v = ps.all (Predicate.holds (m.value v)) := by
  rw [conditionConjunctions_eq] at h
  obtain ⟨happart, hinner⟩ := List.forall_mem_cons.mp h
  have hlevels : ∀ p ∈ ps, (p.level m).eval v = p.holds (m.value v) := fun p hp =>
    Predicate.of_inherits (eval_level_inherits v) p fun cs hcs =>
      hinner cs (List.mem_flatMap.mpr ⟨p, hp, hcs⟩)
  rw [clause, Level.eval_condition, eval_joinLevels (fun _ => happart) hlevels, Connective.value,
    List.all_map]
  rfl

/-- The clause can let in too much, but never too little. -/
theorem eval_clause_of_forall (h : ∀ p ∈ ps, (p.level m).eval v) : (m.clause ps).eval v := by
  rw [clause, Level.eval_condition]
  exact Connective.eval_joinLevels_and_of_forall (List.forall_mem_map.mpr h)

/-- A condition without alternatives lets in nothing else, wherever it is added. -/
theorem eval_clause_of_eval_insert {front back : List Predicate} {p : Predicate}
    (hfront : ∀ q ∈ front, q.level m ≠ []) (hback : ∀ q ∈ back, q.level m ≠ [])
    (hp : (p.level m).length = 1) (h : (m.clause (front ++ p :: back)).eval v) :
    (m.clause (front ++ back)).eval v := by
  have hlevels : ∀ L ∈ front.map (Predicate.level m), L ≠ [] := List.forall_mem_map.mpr hfront
  rw [clause, Level.eval_condition, List.map_append,
    Connective.joinLevels_and_append hlevels] at h ⊢
  rw [List.map_cons, Connective.joinLevels_cons] at h
  exact Level.eval_and_of_eval_and_and (Connective.joinLevels_and_ne_nil hlevels)
    (Connective.joinLevels_and_ne_nil (List.forall_mem_map.mpr hback)) hp h

/-- A condition that is added last lets in whatever its alternatives behind the first one do. -/
theorem eval_clause_of_alternative {front : List Predicate} {p : Predicate}
    (hfront : ∀ q ∈ front, q.level m ≠ []) {alternative : List (Condition (Predicate ⊕ m.Atom))}
    (hmem : alternative ∈ (p.level m).tail) (h : alternative.all (Condition.eval v)) :
    (m.clause (front ++ [p])).eval v := by
  have hlevels : ∀ L ∈ front.map (Predicate.level m), L ≠ [] := List.forall_mem_map.mpr hfront
  rw [clause, Level.eval_condition, List.map_append, Connective.joinLevels_and_append hlevels,
    List.map_singleton, Connective.joinLevels_singleton]
  exact Level.eval_and_of_mem_tail (Connective.joinLevels_and_ne_nil hlevels) hmem h

end RawMeaning

/-- **The clause of conditions is that of their levels with `and` between them**, where every
condition in SQL can be read by itself.  It means that all conditions hold, each one in SQL as a
whole, if those with alternatives stand alone or between parentheses.  In any case it holds where
all conditions hold on their levels, and a further condition without alternatives only narrows it.
But if one with alternatives comes last, each of these other than the first is all that has to hold,
whatever the conditions before it say. -/
theorem readWhere_whereClause_raws {d : Dialect} (hd : d.LiteralsApart) (m : RawMeaning)
    {ps : List Predicate} {fs : List Fragment} (hm : m.Explains d (conditionRaws ps))
    (h : conditionFragments d ps = .ok fs) :
    ∃ ls, scanText d ((Fragment.whereClause fs).neutral ⟨d, true⟩) = some ls ∧ balanced 0 ls ∧
      readWhere ls = some ((m.clause ps).map (m.words d)) ∧
      ∀ v : Predicate ⊕ m.Atom → Bool,
        ((∀ cs ∈ ps :: conditionConjunctions ps, m.Apart cs) →
          (m.clause ps).eval v = ps.all (Predicate.holds (m.value v))) ∧
        ((∀ p ∈ ps, (p.level m).eval v) → (m.clause ps).eval v) ∧
        (∀ front p back, ps = front ++ p :: back → (p.level m).length = 1 →
          (m.clause ps).eval v → (m.clause (front ++ back)).eval v) ∧
        ∀ front p, ps = front ++ [p] → ∀ alternative ∈ (p.level m).tail,
          alternative.all (Condition.eval v) → (m.clause ps).eval v := by
  have hreads := readAs_conditions hm h
  obtain ⟨hbalanced, hread⟩ := readWhere_of_forall₂ hreads
  have hlaid := laid_whereClause_conditions (R := fun sql _ => (scanText d sql).isSome)
    hm.isSome_scanText h
  -- a level that is read has at least one alternative
  have hne : ∀ p ∈ ps, p.level m ≠ [] := by
    intro p hp
    obtain ⟨f, -, hf⟩ := exists_mem_conditionFragments h hp
    have hraws : m.Explains d p.raws := fun r hr =>
      hm r (conditionRaws_eq ps ▸ List.mem_flatMap.mpr ⟨p, hp, hr⟩)
    exact (Predicate.of_inherits (readAs_inherits m d) p hraws f hf).ne_nil
  refine ⟨_, Fragment.scanText_neutral hd hlaid, hbalanced, hread, fun v =>
    ⟨RawMeaning.eval_clause, RawMeaning.eval_clause_of_forall, ?_, ?_⟩⟩
  · rintro front p back rfl hp
    obtain ⟨hfront, hrest⟩ := List.forall_mem_append.mp hne
    obtain ⟨-, hback⟩ := List.forall_mem_cons.mp hrest
    exact RawMeaning.eval_clause_of_eval_insert hfront hback hp
  · rintro front p rfl alternative hmem
    obtain ⟨hfront, -⟩ := List.forall_mem_append.mp hne
    exact RawMeaning.eval_clause_of_alternative hfront hmem

/-- A condition in SQL behind another one: the `or` of its literal is no word of the clause, but the
one before the literal is, and what stands behind it no longer asks for the tenant. -/
theorem readWhere_whereClause_raws_tenantOrNote :
    let tenant := Predicate.compare "tenant" .eq (.int 7)
    let added := Predicate.raw "a = 1 or note = 'x or y'" []
    let m := RawMeaning.ofReader .postgres
    let note : Predicate ⊕ m.Atom := .inr [.word "note", .word "=", .word "'x or y'"]
    Dialect.postgres.LiteralsApart ∧ m.Explains .postgres (conditionRaws [tenant, added]) ∧
      ∃ fs, conditionFragments .postgres [tenant, added] = .ok fs ∧
        ∃ ls, scanText .postgres ((Fragment.whereClause fs).neutral ⟨.postgres, true⟩) = some ls ∧
          balanced 0 ls ∧
          readWhere ls = some ((m.clause [tenant, added]).map (m.words .postgres)) ∧
          ∀ v, v note → (m.clause [tenant, added]).eval v := by
  intro tenant added m note
  have hm : m.Explains .postgres (conditionRaws [tenant, added]) :=
    RawMeaning.explains_ofReader (by decide +kernel)
  obtain ⟨fs, hfs⟩ : ∃ fs, conditionFragments .postgres [tenant, added] = .ok fs := ⟨_, rfl⟩
  obtain ⟨ls, hscan, hbalanced, hread, hmeans⟩ :=
    readWhere_whereClause_raws Engine.postgres.literalsApart m hm hfs
  refine ⟨Engine.postgres.literalsApart, hm, fs, hfs, ls, hscan, hbalanced, hread, fun v hv => ?_⟩
  obtain ⟨-, -, -, hwidens⟩ := hmeans v
  have hlevel : added.level m =
      [[.atom (.inr [.word "a", .word "=", .word "1"])], [.atom note]] := by
    have hraw : readRaw .postgres "a = 1 or note = 'x or y'" =
        some [[.atom [.word "a", .word "=", .word "1"]],
          [.atom [.word "note", .word "=", .word "'x or y'"]]] := by decide +kernel
    change Level.map Sum.inr ((readRaw .postgres "a = 1 or note = 'x or y'").getD []) = _
    rw [hraw]
    rfl
  refine hwidens [tenant] added rfl [.atom note] ?_ ?_
  · rw [hlevel]
    exact List.mem_singleton_self _
  · simpa [Condition.eval] using hv

/-- A condition in SQL with an `or` is not evaluated as a whole, and it lets in rows that the
condition before it excludes. -/
theorem not_readWhere_whereClause_whole :
    ¬ (∀ (d : Dialect) (m : RawMeaning) (ps : List Predicate) (fs : List Fragment),
        d.LiteralsApart → m.Explains d (conditionRaws ps) → conditionFragments d ps = .ok fs →
        ∃ (ls : List Lexeme) (c : Condition (Predicate ⊕ m.Atom)),
          scanText d ((Fragment.whereClause fs).neutral ⟨d, true⟩) = some ls ∧
          readWhere ls = some (c.map (m.words d)) ∧
          ∀ v, c.eval v = ps.all (Predicate.holds (m.value v))) ∧
      ¬ (∀ (d : Dialect) (ps : List Predicate) (p : Predicate) (fs fs' : List Fragment)
        (c c' : Condition (List Lexeme)), d.LiteralsApart →
        (∀ r ∈ conditionRaws (ps ++ [p]), (readRaw d r.1).isSome) →
        conditionFragments d ps = .ok fs → conditionFragments d (ps ++ [p]) = .ok fs' →
        (scanText d ((Fragment.whereClause fs).neutral ⟨d, true⟩)).bind readWhere = some c →
        (scanText d ((Fragment.whereClause fs').neutral ⟨d, true⟩)).bind readWhere = some c' →
        ∀ v, c'.eval v → c.eval v) := by
  let tenant := Predicate.compare "tenant" .eq (.int 7)
  let added := Predicate.raw "a = 1 or b = 2" []
  let words : List Lexeme := [.quoted "tenant", .word "=", .word "?"]
  -- the rows for which only the last one of the three atomic conditions holds
  let last : List Lexeme := [.word "b", .word "=", .word "2"]
  let v : List Lexeme → Bool := fun ls => ls == last
  let alone : Condition (List Lexeme) := .atom words
  let both : Condition (List Lexeme) :=
    .join .or (.join .and (.atom words) (.atom [.word "a", .word "=", .word "1"])) (.atom last)
  obtain ⟨fs, hfs⟩ : ∃ fs, conditionFragments .postgres [tenant] = .ok fs := ⟨_, rfl⟩
  obtain ⟨fs', hfs'⟩ : ∃ fs, conditionFragments .postgres [tenant, added] = .ok fs := ⟨_, rfl⟩
  have halone : (scanText .postgres ((Fragment.whereClause fs).neutral ⟨.postgres, true⟩)).bind
      readWhere = some alone := by
    obtain rfl := Except.ok.inj hfs
    decide +kernel
  have hboth : (scanText .postgres ((Fragment.whereClause fs').neutral ⟨.postgres, true⟩)).bind
      readWhere = some both := by
    obtain rfl := Except.ok.inj hfs'
    decide +kernel
  have hraws : ∀ r ∈ conditionRaws [tenant, added], (readRaw .postgres r.1).isSome := by
    decide +kernel
  constructor
  · intro h
    obtain ⟨ls, c, hscan, hread, heval⟩ := h .postgres (.ofReader .postgres) [tenant, added] fs'
      Engine.postgres.literalsApart (RawMeaning.explains_ofReader hraws) hfs'
    rw [hscan, Option.bind_some, hread] at hboth
    have hvalue := heval fun a => v ((RawMeaning.ofReader .postgres).words .postgres a)
    have htenant : tenant.holds ((RawMeaning.ofReader .postgres).value fun a =>
        v ((RawMeaning.ofReader .postgres).words .postgres a)) = false := by
      change v (tenant.words .postgres) = false
      decide +kernel
    rw [← Condition.eval_map, Option.some.inj hboth, List.all_cons, htenant,
      Bool.false_and] at hvalue
    exact absurd hvalue (by decide)
  · intro h
    have hnarrow := h .postgres [tenant] added fs fs' alone both Engine.postgres.literalsApart hraws
      hfs hfs' halone hboth v (by decide)
    exact absurd hnarrow (by decide)

end PolySql

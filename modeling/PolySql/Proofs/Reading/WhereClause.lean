import PolySql.Proofs.Fragment.Clauses
import PolySql.Proofs.Reading.Clauses

/-!
# Conditions mean what they say

A reader that knows nothing but the precedence of `not`, `and` and `or` finds in the text of
conditions exactly the tree that the conditions are (`readWhere_whereClause`): the same atomic
conditions from left to right, and the same value for whatever values these have.

A `Sentence` is a predicate with its fragment and with what is read off that fragment.  Every
predicate without conditions in SQL has one (`stated_inherits`), by induction on predicates and
queries inside each other.
-/

namespace PolySql

/-! ### What a predicate means -/

mutual

/-- Whether a predicate holds where atomic predicates have the given values. -/
def Predicate.holds (v : Predicate → Bool) : Predicate → Bool
  | .compare column op value => v (.compare column op value)
  | .inList column values => ! values.isEmpty && v (.inList column values)
  | .inQuery column query => v (.inQuery column query)
  | .isNull column => v (.isNull column)
  | .notNull column => v (.notNull column)
  | .raw sql values => v (.raw sql values)
  | .and children => allHold v children
  | .or children => someHolds v children
  | .not child => ! child.holds v

/-- Whether all predicates hold. -/
def allHold (v : Predicate → Bool) : List Predicate → Bool
  | [] => true
  | p :: ps => p.holds v && allHold v ps

/-- Whether some predicate holds. -/
def someHolds (v : Predicate → Bool) : List Predicate → Bool
  | [] => false
  | p :: ps => p.holds v || someHolds v ps

end

mutual

/-- The atomic predicates of a predicate, from left to right. -/
def Predicate.atoms : Predicate → List Predicate
  | .compare column op value => [.compare column op value]
  | .inList column values => if values.isEmpty then [] else [.inList column values]
  | .inQuery column query => [.inQuery column query]
  | .isNull column => [.isNull column]
  | .notNull column => [.notNull column]
  | .raw sql values => [.raw sql values]
  | .and children => conditionAtoms children
  | .or children => conditionAtoms children
  | .not child => child.atoms

/-- The atomic predicates of predicates, from left to right. -/
def conditionAtoms : List Predicate → List Predicate
  | [] => []
  | p :: ps => p.atoms ++ conditionAtoms ps

end

theorem allHold_eq (v : Predicate → Bool) (ps : List Predicate) :
    allHold v ps = Connective.and.value (ps.map (Predicate.holds v)) := by
  induction ps with
  | nil => rfl
  | cons p ps ih => simp [allHold, ih, Connective.value]

theorem someHolds_eq (v : Predicate → Bool) (ps : List Predicate) :
    someHolds v ps = Connective.or.value (ps.map (Predicate.holds v)) := by
  induction ps with
  | nil => rfl
  | cons p ps ih => simp [someHolds, ih, Connective.value]

theorem conditionAtoms_eq (ps : List Predicate) :
    conditionAtoms ps = ps.flatMap Predicate.atoms := by
  induction ps with
  | nil => rfl
  | cons p ps ih => rw [conditionAtoms, ih, List.flatMap_cons]

/-- The words of an operator. -/
def CompareOp.lexemes (op : CompareOp) : List Lexeme :=
  Lexeme.ofPlain [] op.sql.toList

/-- The lexemes of the select of a query. -/
def Query.lexemes (d : Dialect) (q : Query) : List Lexeme :=
  match q.selectFragment d with
  | .ok f => f.lexemes
  | .error _ => []

/-- The lexemes of an atomic predicate; any other predicate is none. -/
def Predicate.lexemes (d : Dialect) : Predicate → List Lexeme
  | .compare column op _ => Lexeme.ofName column ++ op.lexemes ++ [.word "?"]
  | .inList column values =>
    Lexeme.ofName column ++ [.word "in", .sign '('] ++
      List.intercalate [.sign ','] (values.map fun _ => [.word "?"]) ++ [.sign ')']
  | .inQuery column query =>
    Lexeme.ofName column ++ [.word "in", .sign '('] ++ query.lexemes d ++ [.sign ')']
  | .isNull column => Lexeme.ofName column ++ [.word "is", .word "null"]
  | .notNull column => Lexeme.ofName column ++ [.word "is", .word "not", .word "null"]
  | _ => []

/-! ### Sentences -/

/-- A predicate with its fragment, and with the items and the condition that are read off it. -/
structure Sentence (d : Dialect) where
  predicate : Predicate
  fragment : Fragment
  items : List Item
  condition : Condition Predicate
  grouped : Grouped fragment.lexemes items
  operand : Operand items (condition.map (Predicate.lexemes d))
  atoms_eq : condition.atoms = predicate.atoms
  eval_eq : ∀ v, condition.eval v = predicate.holds v

/-- A sentence for a predicate and its fragment. -/
def Predicate.Stated (d : Dialect) (p : Predicate) (f : Fragment) : Prop :=
  ∃ s : Sentence d, s.predicate = p ∧ s.fragment = f

/-! ### Atomic predicates -/

theorem Lexeme.ofSegment_ne_nil (segment : List Char) : ofSegment segment ≠ [] := by
  unfold ofSegment
  split <;> simp

/-- A name starts with a lexeme that is no word. -/
theorem Lexeme.ofName_eq_cons (name : String) :
    ∃ l ls, ofName name = l :: ls ∧ ∀ s, l ≠ .word s := by
  have hne : ofName name ≠ [] := by
    obtain ⟨segment, segments, hsegments⟩ :=
      List.exists_cons_of_ne_nil (Text.fields_ne_nil (· == '.') name.toList)
    rw [ofName, Dialect.segments, hsegments, List.map_cons]
    cases segments with
    | nil => simpa using ofSegment_ne_nil segment
    | cons next segments => simp [ofSegment_ne_nil]
  obtain ⟨l, ls, hcons⟩ := List.exists_cons_of_ne_nil hne
  refine ⟨l, ls, hcons, ?_⟩
  rintro s rfl
  rcases mem_ofName (hcons ▸ List.mem_cons_self) with ⟨c, -, h⟩ | ⟨t, h⟩
  · exact Lexeme.noConfusion h
  · exact Lexeme.noConfusion h

theorem Lexeme.undivided_ofName (name : String) : Undivided ((ofName name).map .leaf) := by
  intro k i hi
  obtain ⟨l, hl, rfl⟩ := List.mem_map.mp hi
  rcases mem_ofName hl with ⟨c, -, rfl⟩ | ⟨s, rfl⟩ <;> rfl

theorem Undivided.append {items others : List Item} (h : Undivided items) (h' : Undivided others) :
    Undivided (items ++ others) := fun k =>
  List.forall_mem_append.mpr ⟨h k, h' k⟩

/-- A name and what follows it, up to a word that joins, is one atomic condition. -/
theorem operand_ofName (column : String) {ls : List Lexeme} {items : List Item}
    (hitems : Grouped ls items) (h : Undivided items) :
    Operand ((Lexeme.ofName column).map .leaf ++ items) (.atom (Lexeme.ofName column ++ ls)) := by
  have hname := (Grouped.leaves (Piece.parenFree_ident column)).append hitems
  -- a condition that starts with a quote or a star is neither negated nor a numeral
  obtain ⟨l, names, hcons, hl⟩ := Lexeme.ofName_eq_cons column
  have hundivided := (Lexeme.undivided_ofName column).append h
  have hlexemes := hname.lexemes_items
  rw [Piece.lexemes, hcons, List.map_cons, List.cons_append] at hlexemes
  rw [hcons, List.map_cons, List.cons_append] at hundivided ⊢
  rw [← hlexemes]
  exact Operand.atom hl fun k => (List.forall_mem_cons.mp (hundivided k)).2

/-- What makes an atomic condition of a name before it: its parentheses are in pairs, and outside of
them it has no word that joins. -/
def Completes (ls : List Lexeme) : Prop :=
  ∃ items, Grouped ls items ∧ Undivided items

theorem Completes.leaves {ls : List Lexeme} (hfree : ParenFree ls)
    (h : Undivided (ls.map .leaf)) : Completes ls :=
  ⟨_, .leaves hfree, h⟩

/-- A list or a query in parentheses. -/
theorem Completes.membership {ls : List Lexeme} {items : List Item} (hitems : Grouped ls items) :
    Completes (.word "in" :: .sign '(' :: ls ++ [.sign ')']) := by
  have hword : Grouped [Lexeme.word "in"] [.leaf (.word "in")] := .leaf (by simp) (by simp)
  refine ⟨_, hword.append hitems.parens, fun k => ?_⟩
  have hin : (Lexeme.word "in").isKeyword k.word = false := by
    cases k <;> decide
  simp [hin, Item.isKeyword]

theorem CompareOp.completes (op : CompareOp) : Completes (op.lexemes ++ [.word "?"]) := by
  refine .leaves ?_ fun k => ?_
  · cases op <;> decide
  · cases op <;> cases k <;> decide

theorem completes_isNull : Completes [.word "is", .word "null"] := by
  refine .leaves (by decide) fun k => ?_
  cases k <;> decide

theorem completes_notNull : Completes [.word "is", .word "not", .word "null"] := by
  refine .leaves (by decide) fun k => ?_
  cases k <;> decide

/-- The sentence of an atomic predicate: its column, and whatever is said about it. -/
theorem stated_atom {d : Dialect} {p : Predicate} {f : Fragment} (column : String)
    {ls : List Lexeme} (hf : f.lexemes = Lexeme.ofName column ++ ls) (h : Completes ls)
    (hp : p.lexemes d = Lexeme.ofName column ++ ls) (hatoms : p.atoms = [p])
    (hholds : ∀ v, p.holds v = v p) : p.Stated d f := by
  obtain ⟨items, hitems, hundivided⟩ := h
  exact
    ⟨{ predicate := p
       fragment := f
       items := (Lexeme.ofName column).map .leaf ++ items
       condition := .atom p
       grouped := hf ▸ (Grouped.leaves (Piece.parenFree_ident column)).append hitems
       operand := by
         rw [Condition.map, hp]
         exact operand_ofName column hitems hundivided
       atoms_eq := hatoms.symm
       eval_eq := fun v => (hholds v).symm }, rfl, rfl⟩

/-- The sentence of a predicate that a comparison of numerals stands for. -/
theorem stated_const {d : Dialect} {p : Predicate} {f : Fragment} {ls : List Lexeme} {b : Bool}
    (hf : f.lexemes = ls) (hls : ParenFree ls) (h : Operand (ls.map .leaf) (.const b))
    (hatoms : p.atoms = []) (hholds : ∀ v, p.holds v = b) : p.Stated d f :=
  ⟨{ predicate := p
     fragment := f
     items := ls.map .leaf
     condition := .const b
     grouped := by
       rw [hf]
       exact .leaves hls
     operand := h
     atoms_eq := hatoms.symm
     eval_eq := fun v => (hholds v).symm }, rfl, rfl⟩

theorem operand_one_eq_one :
    Operand ([.word "1", .word "=", .word "1"].map .leaf) (.const true) where
  undivided k := by cases k <;> decide
  reading := rfl

theorem operand_one_eq_zero :
    Operand ([.word "1", .word "=", .word "0"].map .leaf) (.const false) where
  undivided k := by cases k <;> decide
  reading := rfl

/-! ### Joined predicates -/

namespace Connective

/-- The word with a blank on either side. -/
def separator : Connective → String
  | .and => " and "
  | .or => " or "

theorem lexemes_separator (k : Connective) : (Piece.text k.separator).lexemes = [.word k.word] := by
  cases k <;> rfl

theorem grouped_item (k : Connective) : Grouped [.word k.word] [k.item] :=
  .leaf (by simp) (by simp)

end Connective

namespace Sentence

variable {d : Dialect}

theorem grouped_joined (k : Connective) (ss : List (Sentence d)) :
    Grouped (Fragment.joined k.separator (ss.map fragment)).lexemes
      (List.intercalate [k.item] (ss.map items)) := by
  rw [Fragment.lexemes_joined, k.lexemes_separator]
  induction ss with
  | nil => exact .nil
  | cons s ss ih =>
    cases ss with
    | nil => simpa using s.grouped
    | cons next ss =>
      simp only [List.map_cons, List.intercalate_cons_cons, List.append_assoc] at ih ⊢
      exact s.grouped.append (k.grouped_item.append ih)

/-- What sentences say together. -/
def chain (k : Connective) (s : Sentence d) (ss : List (Sentence d)) : Condition Predicate :=
  .chain k s.condition (ss.map condition)

theorem readItems_joined (k : Connective) (s : Sentence d) (ss : List (Sentence d)) :
    readItems (List.intercalate [k.item] ((s :: ss).map items)) =
      some ((chain k s ss).map (Predicate.lexemes d)) := by
  rw [chain, Condition.map_chain, List.map_map, List.map_cons]
  refine readItems_intercalate k s.operand ?_
  rw [List.forall₂_map_left_iff, List.forall₂_map_right_iff, List.forall₂_same]
  exact fun s _ => s.operand

theorem atoms_chain (k : Connective) (s : Sentence d) (ss : List (Sentence d)) :
    (chain k s ss).atoms = ((s :: ss).map predicate).flatMap Predicate.atoms := by
  rw [chain, Condition.atoms_chain, ← List.map_cons, List.flatMap_map, List.flatMap_map]
  exact List.flatMap_congr fun s _ => s.atoms_eq

theorem eval_chain (v : Predicate → Bool) (k : Connective) (s : Sentence d)
    (ss : List (Sentence d)) :
    (chain k s ss).eval v = k.value (((s :: ss).map predicate).map (Predicate.holds v)) := by
  rw [chain, Condition.eval_chain, ← List.map_cons, List.map_map, List.map_map]
  congr 1
  exact List.map_congr_left fun s _ => s.eval_eq v

end Sentence

/-! ### Compound predicates -/

theorem lexemes_parens (f : Fragment) :
    (Fragment.wrapped "(" ")" f).lexemes = .sign '(' :: f.lexemes ++ [.sign ')'] := by
  have hopen : (Piece.text "(").lexemes = [.sign '('] := rfl
  have hclose : (Piece.text ")").lexemes = [.sign ')'] := rfl
  simp [Fragment.wrapped, hopen, hclose]

theorem lexemes_not (f : Fragment) :
    (Fragment.wrapped "not (" ")" f).lexemes =
      [.word "not"] ++ (.sign '(' :: f.lexemes ++ [.sign ')']) := by
  have hopen : (Piece.text "not (").lexemes = [.word "not", .sign '('] := rfl
  have hclose : (Piece.text ")").lexemes = [.sign ')'] := rfl
  simp [Fragment.wrapped, hopen, hclose]

/-- Predicates with the same word between neighbours, all of them between parentheses. -/
theorem stated_joined {d : Dialect} (k : Connective) {p : Predicate} {s : Sentence d}
    {ss : List (Sentence d)}
    (hatoms : p.atoms = ((s :: ss).map Sentence.predicate).flatMap Predicate.atoms)
    (hholds : ∀ v, p.holds v =
      k.value (((s :: ss).map Sentence.predicate).map (Predicate.holds v))) :
    p.Stated d (.wrapped "(" ")" (.joined k.separator ((s :: ss).map Sentence.fragment))) := by
  have hinner := Sentence.grouped_joined k (s :: ss)
  exact
    ⟨{ predicate := p
       fragment := .wrapped "(" ")" (.joined k.separator ((s :: ss).map Sentence.fragment))
       items := [.group (Fragment.joined k.separator ((s :: ss).map Sentence.fragment)).lexemes
         (readItems (List.intercalate [k.item] ((s :: ss).map Sentence.items)))]
       condition := Sentence.chain k s ss
       grouped := by
         rw [lexemes_parens]
         exact hinner.parens
       operand := .group (Sentence.readItems_joined k s ss)
       atoms_eq := (Sentence.atoms_chain k s ss).trans hatoms.symm
       eval_eq := fun v => (Sentence.eval_chain v k s ss).trans (hholds v).symm }, rfl, rfl⟩

/-- The negation of a predicate stands before it in parentheses. -/
theorem stated_not {d : Dialect} {p : Predicate} {f : Fragment} (h : p.Stated d f) :
    (Predicate.not p).Stated d (.wrapped "not (" ")" f) := by
  obtain ⟨s, rfl, rfl⟩ := h
  have hword : Grouped [.word "not"] [.leaf (.word "not")] := .leaf (by simp) (by simp)
  exact
    ⟨{ predicate := .not s.predicate
       fragment := .wrapped "not (" ")" s.fragment
       items := [.leaf (.word "not"), .group s.fragment.lexemes (readItems s.items)]
       condition := .not s.condition
       grouped := by
         rw [lexemes_not]
         exact hword.append s.grouped.parens
       operand := .not (.group s.operand.readItems_eq)
       atoms_eq := by rw [Condition.atoms, Predicate.atoms, s.atoms_eq]
       eval_eq := fun v => by rw [Condition.eval, Predicate.holds, s.eval_eq] }, rfl, rfl⟩

/-- Sentences for predicates as soon as each of them has one. -/
theorem exists_sentences {d : Dialect} {ps : List Predicate} {fs : List Fragment}
    (ih : ∀ p ∈ ps, p.raws = [] → ∀ f, p.fragment d = .ok f → p.Stated d f)
    (hraws : ps.flatMap Predicate.raws = []) (h : conditionFragments d ps = .ok fs) :
    ∃ ss : List (Sentence d), ss.map Sentence.predicate = ps ∧ ss.map Sentence.fragment = fs := by
  rw [List.flatMap_eq_nil_iff] at hraws
  induction conditionFragments_eq_ok.mp h with
  | nil => exact ⟨[], rfl, rfl⟩
  | @cons p f ps fs hf hfs ihs =>
    obtain ⟨hp, hps⟩ := List.forall_mem_cons.mp ih
    obtain ⟨hpraws, hpsraws⟩ := List.forall_mem_cons.mp hraws
    obtain ⟨s, rfl, rfl⟩ := hp hpraws f hf
    obtain ⟨ss, rfl, rfl⟩ := ihs hps hpsraws (conditionFragments_eq_ok.mpr hfs)
    exact ⟨s :: ss, rfl, rfl⟩

/-- A conjunction or disjunction of some predicates, as soon as each of them has a sentence. -/
theorem stated_of_joined {d : Dialect} (k : Connective) {p child : Predicate}
    {children : List Predicate} {fs : List Fragment}
    (ih : ∀ p ∈ child :: children, p.raws = [] → ∀ f, p.fragment d = .ok f → p.Stated d f)
    (hraws : (child :: children).flatMap Predicate.raws = [])
    (h : conditionFragments d (child :: children) = .ok fs)
    (hatoms : p.atoms = (child :: children).flatMap Predicate.atoms)
    (hholds : ∀ v, p.holds v = k.value ((child :: children).map (Predicate.holds v))) :
    p.Stated d (.wrapped "(" ")" (.joined k.separator fs)) := by
  obtain ⟨ss, hpredicates, rfl⟩ := exists_sentences ih hraws h
  rw [← hpredicates] at hatoms hholds
  cases ss with
  | nil => exact absurd hpredicates (by simp)
  | cons s ss => exact stated_joined k hatoms hholds

/-! ### All predicates -/

theorem lexemes_valueList (values : List Value) :
    (Fragment.valueList values).lexemes =
      List.intercalate [.sign ','] (values.map fun _ => [.word "?"]) := by
  have hcomma : (Piece.text ", ").lexemes = [.sign ','] := rfl
  rw [Fragment.valueList, Fragment.lexemes_joined, hcomma, List.map_map]
  rfl

theorem lexemes_compare (column : String) (op : CompareOp) (v : Value) :
    Fragment.lexemes [.ident column, .text (" " ++ op.sql ++ " "), .value v] =
      Lexeme.ofName column ++ (op.lexemes ++ [.word "?"]) := by
  have hop : (Piece.text (" " ++ op.sql ++ " ")).lexemes = op.lexemes := by
    cases op <;> rfl
  simp [Piece.lexemes_ident, hop, Piece.lexemes_value]

theorem lexemes_inList (column : String) (values : List Value) :
    Fragment.lexemes ([.ident column, .text " in ("] ++ Fragment.valueList values ++ [.text ")"]) =
      Lexeme.ofName column ++
        (.word "in" :: .sign '(' :: (Fragment.valueList values).lexemes ++ [.sign ')']) := by
  have hin : (Piece.text " in (").lexemes = [.word "in", .sign '('] := rfl
  have hclose : (Piece.text ")").lexemes = [.sign ')'] := rfl
  simp [Piece.lexemes_ident, hin, hclose]

theorem lexemes_isNull (column : String) :
    Fragment.lexemes [.ident column, .text " is null"] =
      Lexeme.ofName column ++ [.word "is", .word "null"] := by
  have htext : (Piece.text " is null").lexemes = [.word "is", .word "null"] := rfl
  simp [Piece.lexemes_ident, htext]

theorem lexemes_notNull (column : String) :
    Fragment.lexemes [.ident column, .text " is not null"] =
      Lexeme.ofName column ++ [.word "is", .word "not", .word "null"] := by
  have htext : (Piece.text " is not null").lexemes = [.word "is", .word "not", .word "null"] := rfl
  simp [Piece.lexemes_ident, htext]

/-- Predicates have sentences, and the selects of queries have their parentheses matched, where
there is no condition in SQL. -/
theorem stated_inherits (d : Dialect) :
    Inherits (fun p => p.raws = [] → ∀ f, p.fragment d = .ok f → p.Stated d f)
      (fun q => q.raws = [] → ∀ f, q.selectFragment d = .ok f → f.Matched) where
  compare column op v := by
    intro _ f hf
    obtain rfl := Predicate.fragment_eq_ok.mp hf
    refine stated_atom column (lexemes_compare column op v) op.completes ?_ rfl fun v => rfl
    simp [Predicate.lexemes]
  inList column values := by
    intro _ f hf
    obtain rfl := Predicate.fragment_eq_ok.mp hf
    cases values with
    | nil =>
      have htext : Fragment.lexemes [.text "1 = 0"] = [.word "1", .word "=", .word "0"] := rfl
      exact stated_const htext (by decide) operand_one_eq_zero rfl fun v => rfl
    | cons value values =>
      obtain ⟨items, hitems⟩ := Fragment.matched_valueList (value :: values)
      refine stated_atom column (lexemes_inList column (value :: values)) (.membership hitems) ?_
        rfl fun v => rfl
      simp [Predicate.lexemes, lexemes_valueList]
  inQuery column query ih := by
    intro hraws f hf
    rw [Predicate.raws] at hraws
    obtain ⟨select, hselect, rfl⟩ := Predicate.fragment_eq_ok.mp hf
    obtain ⟨items, hitems⟩ := ih hraws select hselect
    have hin : (Piece.text " in ").lexemes = [.word "in"] := rfl
    have hopen : (Piece.text "(").lexemes = [.sign '('] := rfl
    have hclose : (Piece.text ")").lexemes = [.sign ')'] := rfl
    refine stated_atom column ?_ (.membership hitems) ?_ rfl fun v => rfl
    · simp [Piece.lexemes_ident, hin, hopen, hclose]
    · simp [Predicate.lexemes, Query.lexemes, hselect]
  isNull column := by
    intro _ f hf
    obtain rfl := Predicate.fragment_eq_ok.mp hf
    exact stated_atom column (lexemes_isNull column) completes_isNull rfl rfl fun v => rfl
  notNull column := by
    intro _ f hf
    obtain rfl := Predicate.fragment_eq_ok.mp hf
    exact stated_atom column (lexemes_notNull column) completes_notNull rfl rfl fun v => rfl
  raw sql values := by
    intro hraws
    exact absurd hraws (by simp [Predicate.raws])
  and children ih := by
    intro hraws f hf
    rw [Predicate.raws, conditionRaws_eq] at hraws
    obtain ⟨fs, hfs, rfl⟩ := Predicate.fragment_eq_ok.mp hf
    cases children with
    | nil =>
      have htext : Fragment.lexemes [.text "1 = 1"] = [.word "1", .word "=", .word "1"] := rfl
      exact stated_const htext (by decide) operand_one_eq_one rfl fun v => rfl
    | cons child children =>
      refine stated_of_joined .and ih hraws hfs ?_ fun v => ?_
      · rw [Predicate.atoms, conditionAtoms_eq]
      · rw [Predicate.holds, allHold_eq]
  or children ih := by
    intro hraws f hf
    rw [Predicate.raws, conditionRaws_eq] at hraws
    obtain ⟨fs, hfs, rfl⟩ := Predicate.fragment_eq_ok.mp hf
    cases children with
    | nil =>
      have htext : Fragment.lexemes [.text "1 = 0"] = [.word "1", .word "=", .word "0"] := rfl
      exact stated_const htext (by decide) operand_one_eq_zero rfl fun v => rfl
    | cons child children =>
      refine stated_of_joined .or ih hraws hfs ?_ fun v => ?_
      · rw [Predicate.atoms, conditionAtoms_eq]
      · rw [Predicate.holds, someHolds_eq]
  not child ih := by
    intro hraws f hf
    rw [Predicate.raws] at hraws
    obtain ⟨inner, hinner, rfl⟩ := Predicate.fragment_eq_ok.mp hf
    exact stated_not (ih hraws inner hinner)
  query q ih := by
    intro hraws f hf
    rw [Query.raws_eq] at hraws
    obtain ⟨fs, hfs, hf⟩ := Query.selectFragment_eq_ok.mp hf
    -- of its conditions a select only needs to know that their parentheses match
    obtain ⟨ss, -, rfl⟩ := exists_sentences ih hraws hfs
    have hconditions : ∀ f ∈ ss.map Sentence.fragment, Fragment.Matched f := by
      intro f hf
      obtain ⟨s, -, rfl⟩ := List.mem_map.mp hf
      exact ⟨s.items, s.grouped⟩
    have hwhere := Fragment.matched_whereClause hconditions
    have hselect := ((Fragment.matched_selectHead d q).append hwhere).append
      (Fragment.matched_orderBy q.ordering)
    exact Fragment.matched_windowed hselect hf

/-! ### The clause -/

/-- The clause of conditions is laid out over their conditions in SQL. -/
theorem laid_whereClause_conditions {d : Dialect} {R : String → List Value → Prop}
    {ps : List Predicate} {fs : List Fragment} (hraws : ∀ r ∈ conditionRaws ps, R r.1 r.2)
    (h : conditionFragments d ps = .ok fs) :
    (Fragment.whereClause fs).Laid (fun _ => True) R := by
  rw [conditionRaws_eq] at hraws
  have hinherits := laid_inherits (R := R) nameProperty_true d
  exact (Fragment.laid_whereClause (laid_conditions
    (fun p _ => Predicate.of_inherits hinherits p) (fun _ _ => trivial) hraws h)).1

/-- **The clause of conditions means that all of them hold.**  Its text has its parentheses in pairs
and is read, by the precedence of `not`, `and` and `or` alone, as a condition on the atomic
predicates from left to right that has the value of all predicates together, whatever values the
atomic ones have. -/
theorem readWhere_whereClause {d : Dialect} (hd : d.QuotesApart) {ps : List Predicate}
    {fs : List Fragment} (hraws : conditionRaws ps = []) (h : conditionFragments d ps = .ok fs) :
    ∃ (ls : List Lexeme) (c : Condition Predicate),
      scan d ((Fragment.whereClause fs).neutral ⟨d, true⟩) = some ls ∧
      balanced 0 ls ∧ readWhere ls = some (c.map (Predicate.lexemes d)) ∧
      c.atoms = ps.flatMap Predicate.atoms ∧ ∀ v, c.eval v = ps.all (Predicate.holds v) := by
  have hlaid := laid_whereClause_conditions (R := fun _ _ => False) (by simp [hraws]) h
  have hscan := Fragment.scan_neutral hd hlaid
  rw [conditionRaws_eq] at hraws
  obtain ⟨ss, rfl, rfl⟩ :=
    exists_sentences (fun p _ => Predicate.of_inherits (stated_inherits d) p) hraws h
  cases ss with
  | nil => exact ⟨[], .const true, hscan, rfl, rfl, rfl, fun v => rfl⟩
  | cons s ss =>
    have hitems := (Sentence.grouped_joined .and (s :: ss)).nest_eq
    have hlexemes : (Fragment.whereClause ((s :: ss).map Sentence.fragment)).lexemes =
        .word "where" ::
          (Fragment.joined " and " ((s :: ss).map Sentence.fragment)).lexemes := rfl
    rw [hlexemes] at hscan
    refine ⟨_, Sentence.chain .and s ss, hscan, balanced_of_nest hitems, ?_,
      Sentence.atoms_chain .and s ss, fun v => ?_⟩
    · have hwhere : (Lexeme.word "where").isKeyword "where" = true := by decide
      rw [readWhere, if_pos hwhere]
      exact (congrArg (Option.bind · readItems) hitems).trans (Sentence.readItems_joined .and s ss)
    · rw [Sentence.eval_chain, Connective.value, List.all_map]
      rfl

/-- A disjunction before a negation before a query with conditions of its own: the `or` of neither
of them reaches beyond its parentheses, and the quote inside of a name closes nothing. -/
theorem readWhere_whereClause_nested :
    let equal := Predicate.compare "a]b" .eq (.int 1)
    let missing := Predicate.isNull "c"
    let found := Predicate.inQuery "t.id"
      { Query.select "u" with conditions := [.or [.notNull "x", .and []]], limit := some 3 }
    let conditions :=
      [.or [equal, .not (.and [missing, .or []])], .not (.inList "e" []), found]
    Dialect.mssql.QuotesApart ∧ conditionRaws conditions = [] ∧
      ∃ fs, conditionFragments .mssql conditions = .ok fs ∧
        ∃ (ls : List Lexeme) (c : Condition Predicate),
          scan .mssql ((Fragment.whereClause fs).neutral ⟨.mssql, true⟩) = some ls ∧
            balanced 0 ls ∧ readWhere ls = some (c.map (Predicate.lexemes .mssql)) ∧
            c.atoms = [equal, missing, found] ∧
            ∀ v, c.eval v = ((v equal || ! (v missing && false)) && ! false && v found) := by
  intro equal missing found conditions
  have hraws : conditionRaws conditions = [] := rfl
  obtain ⟨fs, hfs⟩ : ∃ fs, conditionFragments .mssql conditions = .ok fs := ⟨_, rfl⟩
  obtain ⟨ls, c, hscan, hbalanced, hread, hatoms, heval⟩ :=
    readWhere_whereClause Engine.mssql.quotesApart hraws hfs
  refine ⟨Engine.mssql.quotesApart, hraws, fs, hfs, ls, c, hscan, hbalanced, hread, hatoms,
    fun v => (heval v).trans ?_⟩
  simp [conditions, equal, missing, found, Predicate.holds, allHold, someHolds]

end PolySql

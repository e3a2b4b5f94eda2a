import PolySql.Proofs.Reading.Lexeme

/-!
# The tokens of a fragment

The words and signs of a fragment are read one by one, while whatever comes from the query, a name,
a condition in SQL or a bound place, is a token as a whole.  So nothing that stands in a name can be
mistaken for a word of the statement, whether names are quoted or not.
-/

namespace PolySql

/-- A word or a sign of the language, or something from a query. -/
inductive Token where
  | own (l : Lexeme)
  | name (name : String)
  | raw (sql : String) (values : List Value)
  | place (b : Binding)

/-- The tokens of a piece. -/
def Piece.tokens : Piece → List Token
  | .text s => (Lexeme.ofPlain [] s.toList).map .own
  | .ident name => [.name name]
  | .raw sql values => [.raw sql values]
  | .bound b => [.place b]

namespace Fragment

/-- The tokens of a fragment. -/
def tokens (f : Fragment) : List Token :=
  f.flatMap Piece.tokens

@[simp] theorem tokens_nil : tokens [] = [] := rfl

theorem tokens_cons (p : Piece) (f : Fragment) : tokens (p :: f) = p.tokens ++ tokens f := rfl

@[simp] theorem tokens_ident_cons (name : String) (f : Fragment) :
    tokens (.ident name :: f) = .name name :: tokens f := rfl

@[simp] theorem tokens_bound_cons (b : Binding) (f : Fragment) :
    tokens (.bound b :: f) = .place b :: tokens f := rfl

@[simp] theorem tokens_append (f g : Fragment) : tokens (f ++ g) = tokens f ++ tokens g :=
  List.flatMap_append

theorem tokens_joined (separator : String) (fs : List Fragment) :
    tokens (joined separator fs) =
      List.intercalate (Piece.text separator).tokens (fs.map tokens) := by
  induction fs with
  | nil => rfl
  | cons f fs ih =>
    cases fs with
    | nil => simp
    | cons g fs =>
      rw [joined_cons_cons, tokens_append, tokens_cons, ih]
      simp only [List.map_cons, List.intercalate_cons_cons, List.append_assoc]

/-! ### Fragments without a word -/

/-- Whether a word or sign of the language does not occur in a fragment, outside of what comes from
the query. -/
def Free (l : Lexeme) (f : Fragment) : Prop :=
  .own l ∉ f.tokens

variable {l : Lexeme}

theorem Free.nil : Free l [] :=
  List.not_mem_nil

theorem Free.append {f g : Fragment} (hf : Free l f) (hg : Free l g) : Free l (f ++ g) := by
  rw [Free, tokens_append, List.mem_append]
  exact not_or_intro hf hg

theorem Free.cons {p : Piece} {f : Fragment} (hp : .own l ∉ p.tokens) (hf : Free l f) :
    Free l (p :: f) := by
  rw [Free, tokens_cons, List.mem_append]
  exact not_or_intro hp hf

theorem Free.ident_cons {f : Fragment} (name : String) (hf : Free l f) :
    Free l (.ident name :: f) :=
  .cons (by simp [Piece.tokens]) hf

theorem Free.bound_cons {f : Fragment} (b : Binding) (hf : Free l f) : Free l (.bound b :: f) :=
  .cons (by simp [Piece.tokens]) hf

/-- Words before a fragment, read with `h` by evaluation. -/
theorem Free.text_cons {s : String} {f : Fragment} (h : l ∉ Lexeme.ofPlain [] s.toList)
    (hf : Free l f) : Free l (.text s :: f) :=
  .cons (by simpa [Piece.tokens] using h) hf

theorem Free.flatten {fs : List Fragment} (h : ∀ f ∈ fs, Free l f) : Free l fs.flatten := by
  induction fs with
  | nil => exact .nil
  | cons f fs ih =>
    obtain ⟨hf, hfs⟩ := List.forall_mem_cons.mp h
    exact hf.append (ih hfs)

theorem Free.joined {separator : String} {fs : List Fragment} (h : ∀ f ∈ fs, Free l f)
    (hs : l ∉ Lexeme.ofPlain [] separator.toList) : Free l (joined separator fs) := by
  induction fs with
  | nil => exact .nil
  | cons f fs ih =>
    obtain ⟨hf, hfs⟩ := List.forall_mem_cons.mp h
    cases fs with
    | nil => simpa using hf
    | cons g fs =>
      rw [joined_cons_cons]
      exact hf.append ((ih hfs).text_cons hs)

/-! ### Select lists -/

/-- An item has no words or signs of its own but the `as` before its alias. -/
theorem free_selectItem (style : AliasStyle) (item : String) (has : l ≠ .word "as") :
    Free l (selectItem style item) := by
  have hseparator : l ∉ Lexeme.ofPlain [] style.separator.toList := by
    have hwords : ∀ m ∈ Lexeme.ofPlain [] style.separator.toList, m = .word "as" := by
      cases style <;> decide
    exact fun hl => has (hwords l hl)
  unfold selectItem
  split
  · exact .ident_cons _ (.text_cons hseparator (.ident_cons _ .nil))
  · exact .ident_cons _ .nil

theorem free_selectList (style : AliasStyle) (items : List String) (has : l ≠ .word "as")
    (hcomma : l ≠ .sign ',') (hstar : l ≠ .sign '*') : Free l (selectList style items) := by
  unfold selectList
  split
  · have htext : Lexeme.ofPlain [] "*".toList = [.sign '*'] := rfl
    exact .text_cons (by rw [htext]; simpa using hstar) .nil
  · have htext : Lexeme.ofPlain [] ", ".toList = [.sign ','] := rfl
    refine .joined ?_ (by rw [htext]; simpa using hcomma)
    intro f hf
    obtain ⟨item, -, rfl⟩ := List.mem_map.mp hf
    exact free_selectItem style item has

end Fragment

end PolySql

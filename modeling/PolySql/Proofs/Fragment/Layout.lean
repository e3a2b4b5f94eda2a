import Mathlib.Data.List.Chain
import PolySql.Fragment.Select

/-!
# The layout of a fragment

The words and signs of a statement are made of *plain* characters: those of words, and *separators*.
Two neighbouring pieces are always kept apart: the first ends in a separator or the second starts
with one.  So no word runs into the next one, no name into another name, and nothing but a separator
follows a bound place.

`Fragment.Laid N R f` says that `f` is laid out like this, that its names have the property `N` and
that its conditions in SQL have the property `R`.  The fragment of every query is laid out like this
(`Query.laid_fragment`), where `N` and `R` are any properties of the names and conditions in SQL
that the query mentions.
-/

namespace PolySql

/-! ### Characters -/

/-- Whether a character belongs to words, operators or numbers. -/
def isWordChar (c : Char) : Bool :=
  c.isAlphanum || c == '_' || c == '=' || c == '<' || c == '>' || c == '+' || c == '-'

/-- Whether a character stands between words, as a blank or as a sign of its own. -/
def isSeparator (c : Char) : Bool :=
  c == ' ' || c == '(' || c == ')' || c == ',' || c == '.' || c == ';' || c == '*'

/-- Whether a character occurs in the words and signs of statements. -/
def isPlain (c : Char) : Bool :=
  isWordChar c || isSeparator c

/-! ### Pieces -/

namespace Piece

/-- Whether a piece starts with a separator. -/
def startsApart : Piece → Bool
  | .text s => s.toList.head?.any isSeparator
  | _ => false

/-- Whether a piece ends in a separator. -/
def endsApart : Piece → Bool
  | .text s => s.toList.getLast?.any isSeparator
  | _ => false

/-- Whether pieces in this order are kept apart. -/
def Apart (p q : Piece) : Prop :=
  p.endsApart ∨ q.startsApart

/-- A piece of plain words and signs, a name with `N`, a condition in SQL with `R`, or a bound
place. -/
def Over (N : String → Prop) (R : String → List Value → Prop) : Piece → Prop
  | .text s => s.toList.all isPlain
  | .ident name => N name
  | .raw sql values => R sql values
  | .bound _ => True

end Piece

/-- A plain text that starts and ends with a separator, so that it keeps its neighbours apart. -/
structure Separates (s : String) : Prop where
  plain : s.toList.all isPlain
  starts : (Piece.text s).startsApart
  ends : (Piece.text s).endsApart

theorem JoinKind.separates_words (kind : JoinKind) : Separates kind.words := by
  cases kind <;> exact ⟨rfl, rfl, rfl⟩

theorem AliasStyle.separates_separator (style : AliasStyle) : Separates style.separator := by
  cases style <;> exact ⟨rfl, rfl, rfl⟩

theorem CompareOp.separates_sql (op : CompareOp) : Separates (" " ++ op.sql ++ " ") := by
  cases op <;> exact ⟨rfl, rfl, rfl⟩

/-! ### Fragments -/

namespace Fragment

variable {N : String → Prop} {R : String → List Value → Prop}

/-- Names with `N`, conditions in SQL with `R` and plain words, kept apart from each other. -/
structure Laid (N : String → Prop) (R : String → List Value → Prop) (f : Fragment) : Prop where
  pieces : ∀ p ∈ f, p.Over N R
  apart : f.IsChain Piece.Apart

/-- A fragment that may follow any other. -/
def Follows (f : Fragment) : Prop :=
  ∀ p ∈ f.head?, p.startsApart

theorem Laid.nil : Laid N R [] where
  pieces := by simp
  apart := .nil

theorem laid_cons {p : Piece} {f : Fragment} :
    Laid N R (p :: f) ↔ p.Over N R ∧ (∀ q ∈ f.head?, p.Apart q) ∧ Laid N R f := by
  constructor
  · intro h
    have hover := List.forall_mem_cons.mp h.pieces
    have hapart := List.isChain_cons.mp h.apart
    exact ⟨hover.1, hapart.1, hover.2, hapart.2⟩
  · rintro ⟨hp, hhead, hf⟩
    exact ⟨List.forall_mem_cons.mpr ⟨hp, hf.pieces⟩, List.isChain_cons.mpr ⟨hhead, hf.apart⟩⟩

theorem Laid.append {f g : Fragment} (hf : Laid N R f) (hg : Laid N R g)
    (h : ∀ p ∈ f.getLast?, ∀ q ∈ g.head?, p.Apart q) : Laid N R (f ++ g) where
  pieces := List.forall_mem_append.mpr ⟨hf.pieces, hg.pieces⟩
  apart := List.isChain_append.mpr ⟨hf.apart, hg.apart, h⟩

theorem Laid.append_of_follows {f g : Fragment} (hf : Laid N R f) (hg : Laid N R g)
    (h : Follows g) : Laid N R (f ++ g) :=
  hf.append hg fun _ _ q hq => .inr (h q hq)

/-- Anything may follow a text that ends in a separator. -/
theorem Laid.text_cons {s : String} {f : Fragment} (hf : Laid N R f)
    (hs : s.toList.all isPlain) (hend : (Piece.text s).endsApart) : Laid N R (.text s :: f) :=
  laid_cons.mpr ⟨hs, fun _ _ => .inl hend, hf⟩

/-- A piece before a fragment that may follow any other. -/
theorem Laid.cons_of_follows {p : Piece} {f : Fragment} (hp : p.Over N R) (hf : Laid N R f)
    (h : Follows f) : Laid N R (p :: f) :=
  laid_cons.mpr ⟨hp, fun q hq => .inr (h q hq), hf⟩

theorem Laid.single {p : Piece} (hp : p.Over N R) : Laid N R [p] :=
  laid_cons.mpr ⟨hp, by simp, .nil⟩

theorem Laid.text {s : String} (hs : s.toList.all isPlain) : Laid N R [.text s] :=
  .single hs

/-- A piece, a text that keeps its neighbours apart, and a fragment. -/
theorem Laid.cons_separates {p : Piece} {s : String} {f : Fragment} (hp : p.Over N R)
    (hs : Separates s) (hf : Laid N R f) : Laid N R (p :: .text s :: f) :=
  laid_cons.mpr ⟨hp, by simpa [Piece.Apart] using .inr hs.starts, hf.text_cons hs.plain hs.ends⟩

theorem Laid.wrapped {before after : String} {f : Fragment} (hf : Laid N R f)
    (hbefore : before.toList.all isPlain) (hend : (Piece.text before).endsApart)
    (hafter : after.toList.all isPlain) (hstart : (Piece.text after).startsApart) :
    Laid N R (wrapped before after f) := by
  have hinner : Laid N R (f ++ [.text after]) :=
    hf.append_of_follows (.text hafter) (by simpa [Follows] using hstart)
  exact hinner.text_cons hbefore hend

theorem Follows.append {f g : Fragment} (hf : Follows f) (hg : Follows g) : Follows (f ++ g) := by
  intro p hp
  cases f with
  | nil => exact hg p hp
  | cons q f => exact hf p hp

theorem Follows.cons {p : Piece} (hp : p.startsApart) (f : Fragment) : Follows (p :: f) := by
  simpa [Follows] using hp

theorem follows_nil : Follows [] := by
  simp [Follows]

/-- Fragments that may follow any other may follow each other. -/
theorem Laid.flatten {fs : List Fragment} (h : ∀ f ∈ fs, Laid N R f ∧ Follows f) :
    Laid N R fs.flatten ∧ Follows fs.flatten := by
  induction fs with
  | nil => exact ⟨.nil, follows_nil⟩
  | cons f fs ih =>
    obtain ⟨⟨hf, hfollows⟩, hfs⟩ := List.forall_mem_cons.mp h
    obtain ⟨hlaid, hrest⟩ := ih hfs
    rw [List.flatten_cons]
    exact ⟨hf.append_of_follows hlaid hrest, hfollows.append hrest⟩

theorem Laid.joined {separator : String} {fs : List Fragment} (h : ∀ f ∈ fs, Laid N R f)
    (hs : Separates separator) : Laid N R (joined separator fs) := by
  induction fs with
  | nil => exact .nil
  | cons f fs ih =>
    obtain ⟨hf, hfs⟩ := List.forall_mem_cons.mp h
    cases fs with
    | nil => simpa using hf
    | cons g fs =>
      rw [joined_cons_cons]
      exact hf.append_of_follows ((ih hfs).text_cons hs.plain hs.ends) (.cons hs.starts _)

end Fragment

end PolySql

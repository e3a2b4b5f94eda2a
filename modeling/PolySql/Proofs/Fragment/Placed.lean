import PolySql.Dialect.Builtin
import PolySql.Proofs.Alignment
import PolySql.Proofs.Fragment.Texts

/-!
# The pieces of a fragment in the finished text

The pass that numbers the marks knows nothing of pieces, but the finished text can be cut at them
again: `Fragment.placed` lists the pieces with what becomes of their texts.  A text with a mark is
changed wherever marks are numbered (`Placeholder.positionFrom_eq_self_iff`), and quotes neither add
marks to a name nor take any away, so that the marks of a neutral text are its places and the marks
of its names (`Fragment.count_neutral`, `Fragment.count_ownChars_of_over`).
-/

namespace PolySql

/-! ### What numbering changes -/

namespace Placeholder

/-- A number is written with at least one digit after the sign of its style. -/
theorem two_le_length_token {style : PlaceholderStyle} (h : style ≠ .question) (index : Nat) :
    2 ≤ (style.token index).toList.length := by
  have hdigits : 1 ≤ (toString index).toList.length := by
    rw [Nat.one_le_iff_ne_zero, ne_eq, List.length_eq_zero_iff, String.toList_eq_nil_iff]
    exact Nat.repr_ne_empty
  have hsigned (sign : String) (hsign : 1 ≤ sign.toList.length) :
      2 ≤ (sign ++ toString index).toList.length := by
    rw [String.toList_append, List.length_append]
    omega
  cases style with
  | question => exact absurd rfl h
  | dollar => exact hsigned "$" (by decide)
  | colon => exact hsigned ":" (by decide)
  | atP => exact hsigned "@p" (by decide)

theorem length_positionFrom {style : PlaceholderStyle} (h : style ≠ .question) (index : Nat)
    (cs : List Char) : cs.length + cs.count mark ≤ (positionFrom style index cs).length := by
  induction cs generalizing index with
  | nil => exact Nat.le_refl _
  | cons c cs ih =>
    by_cases hc : c = mark
    · subst hc
      have htoken := two_le_length_token h index
      have hrest := ih (index + 1)
      rw [positionFrom_mark, List.length_append, List.length_cons, List.count_cons_self]
      omega
    · have hrest := ih index
      rw [positionFrom_of_ne_mark _ _ hc, List.length_cons, List.length_cons,
        List.count_cons_of_ne hc]
      omega

/-- Numbering leaves a text as it is if and only if there is nothing to number in it. -/
theorem positionFrom_eq_self_iff {style : PlaceholderStyle} {index : Nat} {cs : List Char} :
    positionFrom style index cs = cs ↔ style = .question ∨ mark ∉ cs := by
  constructor
  · intro h
    by_cases hstyle : style = .question
    · exact .inl hstyle
    · have hlength := length_positionFrom hstyle index cs
      rw [h] at hlength
      exact .inr (List.count_eq_zero.mp (by omega))
  · rintro (rfl | hmark)
    · exact positionFrom_question index cs
    · exact positionFrom_of_not_mem style index hmark

end Placeholder

/-! ### Marks in names -/

namespace Dialect

/-- Quotes that are neither marks nor dots. -/
structure QuotesClear (d : Dialect) : Prop where
  openMark : d.openQuote ≠ Placeholder.mark
  closeMark : d.closeQuote ≠ Placeholder.mark
  openDot : d.openQuote ≠ '.'
  closeDot : d.closeQuote ≠ '.'

variable {d : Dialect}

theorem count_mark_quoteSegment (hd : d.QuotesClear) (segment : List Char) :
    (d.quoteSegment segment).count Placeholder.mark = segment.count Placeholder.mark := by
  have hdoubled : (d.doubled segment).count Placeholder.mark =
      segment.count Placeholder.mark := by
    induction segment with
    | nil => rfl
    | cons c cs ih =>
      rw [doubled_cons, List.count_append, ih]
      split
      · rename_i hc
        -- a closing quote is written twice, but it is no mark
        have hmark : c ≠ Placeholder.mark := fun heq => hd.closeMark (hc.symm.trans heq)
        rw [List.count_cons_of_ne hmark, List.count_cons_of_ne hmark, List.count_cons_of_ne hmark,
          List.count_nil, Nat.zero_add]
      · rw [List.count_singleton, List.count_cons, Nat.add_comm]
  unfold quoteSegment
  split
  · rfl
  · rw [List.cons_append, List.count_cons_of_ne hd.openMark, List.count_append, hdoubled,
      List.count_cons_of_ne hd.closeMark, List.count_nil, Nat.add_zero]

theorem count_mark_intercalate (hd : d.QuotesClear) (segments : List (List Char)) :
    (['.'].intercalate (segments.map d.quoteSegment)).count Placeholder.mark =
      (['.'].intercalate segments).count Placeholder.mark := by
  induction segments with
  | nil => rfl
  | cons segment rest ih =>
    cases rest with
    | nil => simpa using count_mark_quoteSegment hd segment
    | cons next rest =>
      rw [List.map_cons, List.map_cons, List.intercalate_cons_cons, List.intercalate_cons_cons,
        ← List.map_cons, List.count_append, List.count_append, List.count_append,
        List.count_append, ih, count_mark_quoteSegment hd]

end Dialect

/-- The quotes of an engine are clear, whatever the rest of the dialect is. -/
theorem Engine.quotesClear (engine : Engine) {d : Dialect}
    (hopen : d.openQuote = engine.dialect.openQuote)
    (hclose : d.closeQuote = engine.dialect.closeQuote) : d.QuotesClear := by
  constructor
  all_goals first | rw [hopen] | rw [hclose]
  all_goals cases engine <;> decide

/-- A name has as many marks in a statement as it has itself. -/
theorem Writer.count_mark_identifier {w : Writer} (hd : w.dialect.QuotesClear) (name : String) :
    (w.identifier name).toList.count Placeholder.mark = name.toList.count Placeholder.mark := by
  unfold identifier
  split
  · rw [Dialect.quote, String.toList_ofList, Dialect.count_mark_intercalate hd,
      Dialect.intercalate_segments]
  · rfl

/-! ### Pieces in the finished text -/

namespace Piece

/-- The characters of a name. -/
def nameChars : Piece → List Char
  | .ident name => name.toList
  | _ => []

/-- The characters of a piece in neutral form, if it is no name. -/
def ownChars : Piece → List Char
  | .text s => s.toList
  | .ident _ => []
  | .raw sql _ => sql.toList
  | .bound _ => [Placeholder.mark]

end Piece

namespace Fragment

/-- The pieces of a fragment, each with what becomes of its text when the first mark gets the given
number. -/
def placed (w : Writer) : Nat → Fragment → List (Piece × List Char)
  | _, [] => []
  | index, p :: f =>
    (p, Placeholder.positionFrom w.dialect.placeholderStyle index (p.neutral w).toList) ::
      placed w (index + (p.neutral w).toList.count Placeholder.mark) f

/-- The finished text is that of the pieces, one after the other. -/
theorem flatten_placed (w : Writer) (index : Nat) (f : Fragment) :
    ((f.placed w index).map Prod.snd).flatten =
      Placeholder.positionFrom w.dialect.placeholderStyle index (f.neutral w).toList := by
  induction f generalizing index with
  | nil => simp [placed]
  | cons p f ih =>
    rw [placed, List.map_cons, List.flatten_cons, ih, ← Placeholder.positionFrom_append]
    simp [neutral]

theorem exists_of_mem_placed {w : Writer} {index : Nat} {f : Fragment} {p : Piece}
    {cs : List Char} (h : (p, cs) ∈ f.placed w index) :
    ∃ k, cs = Placeholder.positionFrom w.dialect.placeholderStyle k (p.neutral w).toList := by
  induction f generalizing index with
  | nil => exact absurd h List.not_mem_nil
  | cons p' f ih =>
    rw [placed] at h
    rcases List.mem_cons.mp h with h | h
    · obtain ⟨rfl, rfl⟩ := Prod.mk.inj h
      exact ⟨index, rfl⟩
    · exact ih h

/-- A name is found in the finished text as it was written if and only if it has no mark or marks
are not numbered. -/
theorem placed_ident_eq_iff {w : Writer} (hd : w.dialect.QuotesClear) {index : Nat} {f : Fragment}
    {name : String} {cs : List Char} (h : (.ident name, cs) ∈ f.placed w index) :
    cs = (w.identifier name).toList ↔
      w.dialect.placeholderStyle = .question ∨ Placeholder.mark ∉ name.toList := by
  obtain ⟨k, rfl⟩ := exists_of_mem_placed h
  have hmarks : Placeholder.mark ∉ (w.identifier name).toList ↔
      Placeholder.mark ∉ name.toList := by
    rw [← List.count_eq_zero, w.count_mark_identifier hd, List.count_eq_zero]
  rw [Piece.neutral, Placeholder.positionFrom_eq_self_iff, hmarks]

/-! ### Counting marks -/

/-- The marks of a neutral text are those in its names and all others. -/
theorem count_neutral {w : Writer} (hd : w.dialect.QuotesClear) (f : Fragment) :
    (f.neutral w).toList.count Placeholder.mark =
      (f.flatMap Piece.ownChars).count Placeholder.mark +
        (f.flatMap Piece.nameChars).count Placeholder.mark := by
  induction f with
  | nil => simp
  | cons p f ih =>
    have hpiece : (p.neutral w).toList.count Placeholder.mark =
        p.ownChars.count Placeholder.mark + p.nameChars.count Placeholder.mark := by
      cases p with
      | text s => rfl
      | ident name =>
        rw [Piece.neutral, w.count_mark_identifier hd]
        exact (Nat.zero_add _).symm
      | raw sql values => rfl
      | bound b => simp [Piece.neutral, Piece.ownChars, Piece.nameChars, Placeholder.mark]
    have hcons : (neutral w (p :: f)).toList = (p.neutral w).toList ++ (neutral w f).toList := by
      simp [neutral]
    rw [hcons, List.count_append, List.flatMap_cons, List.flatMap_cons, List.count_append,
      List.count_append, hpiece, ih]
    omega

/-- Outside of names, a fragment of plain words has as many marks as bindings. -/
theorem count_ownChars_of_over {f : Fragment}
    (h : ∀ p ∈ f, p.Over (fun _ => True) fun _ _ => False) :
    (f.flatMap Piece.ownChars).count Placeholder.mark = f.bindings.length := by
  induction f with
  | nil => rfl
  | cons p f ih =>
    obtain ⟨hp, hf⟩ := List.forall_mem_cons.mp h
    have hpiece : p.ownChars.count Placeholder.mark = p.bindings.length := by
      cases p with
      | text s =>
        refine List.count_eq_zero.mpr fun hmark => ?_
        exact ne_mark_of_isPlain (List.all_eq_true.mp hp _ hmark) rfl
      | ident name => rfl
      | raw sql values => exact hp.elim
      | bound b => rfl
    rw [List.flatMap_cons, List.count_append, ih hf, hpiece, bindings_cons, List.length_append]

end Fragment

end PolySql

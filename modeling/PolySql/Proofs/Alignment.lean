import PolySql.Dialect.Builtin
import PolySql.Proofs.Fragment.Bindings
import PolySql.Proofs.Fragment.Changes
import PolySql.Proofs.Fragment.Compiled
import PolySql.Proofs.Identifier

/-!
# Text and bindings are aligned

The marks of a statement are numbered in its finished text, which knows nothing of the bindings.
Here a statement is read as one sequence of *spans*, texts and bound places, in which the text of a
condition in SQL is cut at its own marks.  `Span.numbered` writes the sequence with the token of `k`
for the `k`-th bound place.

When no name that a query mentions has a mark in it, and every condition in SQL has as many marks as
values, the numbered text of the statement is that sequence, and its bindings are the bound places
of the sequence (`Query.compile_aligned`).
-/

namespace PolySql

/-! ### Numbering -/

namespace Placeholder

/-- The tokens of a text go on where those of the text before it end. -/
theorem positionFrom_append (style : PlaceholderStyle) (index : Nat) (cs ds : List Char) :
    positionFrom style index (cs ++ ds) =
      positionFrom style index cs ++ positionFrom style (index + cs.count mark) ds := by
  induction cs generalizing index with
  | nil => simp
  | cons c cs ih =>
    by_cases hc : c = mark
    · -- the mark takes a number, and the rest is numbered from the next one on
      subst hc
      rw [List.cons_append, positionFrom_mark, positionFrom_mark, ih, List.count_cons_self,
        List.append_assoc]
      congr 3
      omega
    · rw [List.cons_append, positionFrom_of_ne_mark style index hc,
        positionFrom_of_ne_mark style index hc, ih, List.count_cons_of_ne hc, List.cons_append]

end Placeholder

/-! ### Spans -/

/-- A stretch of a statement: the compiler's own text, names included, the text of a condition in
SQL, or a bound place. -/
inductive Span where
  | text (cs : List Char)
  | raw (cs : List Char)
  | bound (b : Binding)

namespace Span

/-- The binding of a bound place. -/
def binding? : Span → Option Binding
  | .text _ => none
  | .raw _ => none
  | .bound b => some b

/-- The bindings of the bound places, in order. -/
def bindings (spans : List Span) : List Binding :=
  spans.filterMap binding?

@[simp] theorem bindings_text_cons (cs : List Char) (rest : List Span) :
    bindings (.text cs :: rest) = bindings rest := rfl

@[simp] theorem bindings_raw_cons (cs : List Char) (rest : List Span) :
    bindings (.raw cs :: rest) = bindings rest := rfl

@[simp] theorem bindings_bound_cons (b : Binding) (rest : List Span) :
    bindings (.bound b :: rest) = b :: bindings rest := rfl

theorem bindings_append (spans rest : List Span) :
    bindings (spans ++ rest) = bindings spans ++ bindings rest :=
  List.filterMap_append

/-- A span in neutral form. -/
def neutral : Span → List Char
  | .text cs => cs
  | .raw cs => cs
  | .bound _ => [Placeholder.mark]

/-- The text of spans with the placeholders of a dialect, the first one with the given number. -/
def numbered (d : Dialect) (index : Nat) : List Span → List Char
  | [] => []
  | .text cs :: rest => cs ++ numbered d index rest
  | .raw cs :: rest => cs ++ numbered d index rest
  | .bound _ :: rest => (d.placeholder index).toList ++ numbered d (index + 1) rest

/-- The first character of spans, if it is neither part of a condition in SQL nor of a
placeholder. -/
def firstOwn? : List Span → Option Char
  | [] => none
  | .text [] :: rest => firstOwn? rest
  | .text (c :: _) :: _ => some c
  | .raw [] :: rest => firstOwn? rest
  | .raw (_ :: _) :: _ => none
  | .bound _ :: _ => none

/-- No placeholder runs on into a digit that the compiler writes after it. -/
def NoDigitAfter (spans : List Span) : Prop :=
  ∀ before b after, spans = before ++ .bound b :: after →
    ∀ c ∈ firstOwn? after, ¬ c.isDigit

/-- A text without marks, or a bound place. -/
def Clean : Span → Prop
  | .text cs => Placeholder.mark ∉ cs
  | .raw cs => Placeholder.mark ∉ cs
  | .bound _ => True

/-- In spans with clean texts the marks are the bound places, so they are numbered like these. -/
theorem positionFrom_flatMap_neutral (d : Dialect) {spans : List Span}
    (h : ∀ span ∈ spans, span.Clean) (index : Nat) :
    Placeholder.positionFrom d.placeholderStyle index (spans.flatMap neutral) =
      numbered d index spans := by
  induction spans generalizing index with
  | nil => rfl
  | cons span rest ih =>
    obtain ⟨hspan, hrest⟩ := List.forall_mem_cons.mp h
    rw [List.flatMap_cons, Placeholder.positionFrom_append, ih hrest]
    cases span with
    | text cs =>
      rw [neutral, Placeholder.positionFrom_of_not_mem _ _ hspan, List.count_eq_zero.mpr hspan]
      rfl
    | raw cs =>
      rw [neutral, Placeholder.positionFrom_of_not_mem _ _ hspan, List.count_eq_zero.mpr hspan]
      rfl
    | bound b =>
      rw [neutral, Placeholder.positionFrom_mark, Placeholder.positionFrom_nil, List.append_nil]
      rfl

/-- In spans with clean texts there are as many marks as bound places. -/
theorem count_flatMap_neutral {spans : List Span} (h : ∀ span ∈ spans, span.Clean) :
    (spans.flatMap neutral).count Placeholder.mark = (bindings spans).length := by
  induction spans with
  | nil => rfl
  | cons span rest ih =>
    obtain ⟨hspan, hrest⟩ := List.forall_mem_cons.mp h
    rw [List.flatMap_cons, List.count_append, ih hrest]
    cases span with
    | text cs => rw [bindings_text_cons, neutral, List.count_eq_zero.mpr hspan, Nat.zero_add]
    | raw cs => rw [bindings_raw_cons, neutral, List.count_eq_zero.mpr hspan, Nat.zero_add]
    | bound b =>
      rw [bindings_bound_cons, neutral, List.count_singleton_self, List.length_cons, Nat.add_comm]

theorem noDigitAfter_nil : NoDigitAfter [] := by
  intro before b after h
  simp at h

theorem noDigitAfter_cons {span : Span} {rest : List Span} (hrest : NoDigitAfter rest)
    (h : ∀ b, span = .bound b → ∀ c ∈ firstOwn? rest, ¬ c.isDigit) :
    NoDigitAfter (span :: rest) := by
  intro before b after hsplit
  cases before with
  | nil =>
    obtain ⟨rfl, rfl⟩ := List.cons.inj hsplit
    exact h b rfl
  | cons head before => exact hrest before b after (List.cons.inj hsplit).2

end Span

/-! ### The spans of a fragment -/

/-- The spans of a condition in SQL: its text, cut at the marks, which the values take in turn. -/
def rawSpans : List Value → List Char → List Span
  | _, [] => []
  | [], c :: cs => .raw [c] :: rawSpans [] cs
  | v :: values, c :: cs =>
    if c = Placeholder.mark then .bound (.value v) :: rawSpans values cs
    else .raw [c] :: rawSpans (v :: values) cs

/-- The spans of a piece. -/
def Piece.spans (w : Writer) : Piece → List Span
  | .text s => [.text s.toList]
  | .ident name => [.text (w.identifier name).toList]
  | .raw sql values => rawSpans values sql.toList
  | .bound b => [.bound b]

/-- The spans of a fragment. -/
def Fragment.spans (w : Writer) (f : Fragment) : List Span :=
  f.flatMap (Piece.spans w)

section RawSpans

variable {values : List Value} {cs : List Char}

theorem neutral_rawSpans : (rawSpans values cs).flatMap Span.neutral = cs := by
  fun_induction rawSpans values cs with
  | case1 => rfl
  | case2 c cs ih => simp [Span.neutral, ih]
  | case3 v values cs ih => simp [Span.neutral, ih]
  | case4 v values c cs hc ih => simp [Span.neutral, ih]

theorem clean_rawSpans (h : cs.count Placeholder.mark = values.length) :
    ∀ span ∈ rawSpans values cs, span.Clean := by
  fun_induction rawSpans values cs with
  | case1 => simp
  | case2 c cs ih =>
    -- no values are left, so there are no marks left either
    have hnone : Placeholder.mark ∉ c :: cs := List.count_eq_zero.mp h
    rw [List.mem_cons, not_or] at hnone
    refine List.forall_mem_cons.mpr ⟨?_, ih (List.count_eq_zero.mpr hnone.2)⟩
    simpa [Span.Clean] using hnone.1
  | case3 v values cs ih =>
    rw [List.count_cons_self, List.length_cons] at h
    exact List.forall_mem_cons.mpr ⟨trivial, ih (by omega)⟩
  | case4 v values c cs hc ih =>
    rw [List.count_cons_of_ne hc] at h
    refine List.forall_mem_cons.mpr ⟨?_, ih h⟩
    simpa [Span.Clean] using Ne.symm hc

theorem bindings_rawSpans (h : cs.count Placeholder.mark = values.length) :
    Span.bindings (rawSpans values cs) = values.map .value := by
  fun_induction rawSpans values cs with
  | case1 values =>
    rw [List.count_nil, eq_comm, List.length_eq_zero_iff] at h
    rw [h]
    rfl
  | case2 c cs ih =>
    have hnone : Placeholder.mark ∉ c :: cs := List.count_eq_zero.mp h
    rw [List.mem_cons, not_or] at hnone
    exact ih (List.count_eq_zero.mpr hnone.2)
  | case3 v values cs ih =>
    rw [List.count_cons_self, List.length_cons] at h
    rw [Span.bindings_bound_cons, ih (by omega), List.map_cons]
  | case4 v values c cs hc ih =>
    rw [List.count_cons_of_ne hc] at h
    exact ih h

/-- What follows a mark of a condition in SQL is that condition, or what follows the condition. -/
theorem noDigitAfter_rawSpans {rest : List Span} (hrest : Span.NoDigitAfter rest)
    (hfirst : ∀ c ∈ Span.firstOwn? rest, ¬ c.isDigit) :
    Span.NoDigitAfter (rawSpans values cs ++ rest) ∧
      ∀ c ∈ Span.firstOwn? (rawSpans values cs ++ rest), ¬ c.isDigit := by
  fun_induction rawSpans values cs with
  | case1 => exact ⟨hrest, hfirst⟩
  | case2 c cs ih => exact ⟨Span.noDigitAfter_cons ih.1 (by simp), by simp [Span.firstOwn?]⟩
  | case3 v values cs ih =>
    exact ⟨Span.noDigitAfter_cons ih.1 fun _ _ => ih.2, by simp [Span.firstOwn?]⟩
  | case4 v values c cs hc ih =>
    exact ⟨Span.noDigitAfter_cons ih.1 (by simp), by simp [Span.firstOwn?]⟩

end RawSpans

namespace Fragment

theorem spans_cons (w : Writer) (p : Piece) (f : Fragment) :
    spans w (p :: f) = p.spans w ++ spans w f := rfl

theorem neutral_spans (w : Writer) (f : Fragment) :
    (spans w f).flatMap Span.neutral = (neutral w f).toList := by
  induction f with
  | nil => rfl
  | cons p f ih =>
    have hpiece : (p.spans w).flatMap Span.neutral = (p.neutral w).toList := by
      cases p with
      | text s => simp [Piece.spans, Span.neutral, Piece.neutral]
      | ident name => simp [Piece.spans, Span.neutral, Piece.neutral]
      | raw sql values => exact neutral_rawSpans
      | bound b => simp [Piece.spans, Span.neutral, Piece.neutral, Placeholder.mark]
    rw [spans_cons, List.flatMap_append, ih, hpiece]
    simp [neutral]

/-! ### Alignment of a laid out fragment -/

/-- No mark in a name, as many marks as values in a condition in SQL. -/
abbrev LaidAligned (f : Fragment) : Prop :=
  f.Laid (fun name => Placeholder.mark ∉ name.toList)
    (fun sql values => sql.toList.count Placeholder.mark = values.length)

theorem ne_mark_of_isPlain {c : Char} (h : isPlain c) : Placeholder.mark ≠ c := by
  rintro rfl
  exact absurd h (by decide)

theorem not_isDigit_of_isSeparator {c : Char} (h : isSeparator c) : ¬ c.isDigit := by
  simp only [isSeparator, Bool.or_eq_true, beq_iff_eq] at h
  rcases h with (((((rfl | rfl) | rfl) | rfl) | rfl) | rfl) | rfl <;> decide

theorem clean_spans {w : Writer} {f : Fragment} (h : f.LaidAligned)
    (hident : ∀ name : String, Placeholder.mark ∉ name.toList →
      Placeholder.mark ∉ (w.identifier name).toList) : ∀ span ∈ spans w f, span.Clean := by
  intro span hspan
  obtain ⟨p, hp, hspan⟩ := List.mem_flatMap.mp hspan
  have hover := h.pieces p hp
  cases p with
  | text s =>
    obtain rfl := List.mem_singleton.mp hspan
    exact fun hmark => ne_mark_of_isPlain (List.all_eq_true.mp hover _ hmark) rfl
  | ident name =>
    obtain rfl := List.mem_singleton.mp hspan
    exact hident name hover
  | raw sql values => exact clean_rawSpans hover span hspan
  | bound b =>
    obtain rfl := List.mem_singleton.mp hspan
    trivial

theorem bindings_spans {w : Writer} {f : Fragment} (h : f.LaidAligned) :
    Span.bindings (spans w f) = f.bindings := by
  induction f with
  | nil => rfl
  | cons p f ih =>
    obtain ⟨hover, -, hf⟩ := laid_cons.mp h
    have hpiece : Span.bindings (p.spans w) = p.bindings := by
      cases p with
      | text s => rfl
      | ident name => rfl
      | raw sql values => exact bindings_rawSpans hover
      | bound b => rfl
    rw [spans_cons, Span.bindings_append, hpiece, ih hf, bindings_cons]

/-- A fragment that may follow any other starts with a separator. -/
theorem not_isDigit_of_follows {w : Writer} {f : Fragment} (h : Follows f) :
    ∀ c ∈ Span.firstOwn? (spans w f), ¬ c.isDigit := by
  cases f with
  | nil => simp [spans, Span.firstOwn?]
  | cons p f =>
    have hp : p.startsApart := h p rfl
    cases p with
    | text s =>
      cases hs : s.toList with
      | nil => simp [Piece.startsApart, hs] at hp
      | cons c cs =>
        have hsep : isSeparator c := by simpa [Piece.startsApart, hs] using hp
        intro e he
        rw [spans_cons, Piece.spans, hs, List.singleton_append, Span.firstOwn?] at he
        obtain rfl := Option.mem_some_iff.mp he
        exact not_isDigit_of_isSeparator hsep
    | ident name => simp [Piece.startsApart] at hp
    | raw sql values => simp [Piece.startsApart] at hp
    | bound b => simp [Piece.startsApart] at hp

/-- Nothing but a separator follows a bound place, and nothing else a condition in SQL. -/
theorem noDigitAfter_spans {N : String → Prop} {R : String → List Value → Prop} {w : Writer}
    {f : Fragment} (h : f.Laid N R) : Span.NoDigitAfter (spans w f) := by
  induction f with
  | nil => exact Span.noDigitAfter_nil
  | cons p f ih =>
    obtain ⟨-, happart, hf⟩ := laid_cons.mp h
    -- names, conditions in SQL and bound places do not end apart, so their neighbours start apart
    have hfollows : p.endsApart = false → Follows f := by
      intro hp q hq
      rcases happart q hq with hends | hstarts
      · rw [hp] at hends
        exact absurd hends Bool.false_ne_true
      · exact hstarts
    rw [spans_cons]
    cases p with
    | text s => exact Span.noDigitAfter_cons (ih hf) (by simp)
    | ident name => exact Span.noDigitAfter_cons (ih hf) (by simp)
    | raw sql values =>
      exact (noDigitAfter_rawSpans (ih hf) (not_isDigit_of_follows (hfollows rfl))).1
    | bound b =>
      exact Span.noDigitAfter_cons (ih hf) fun _ _ => not_isDigit_of_follows (hfollows rfl)

end Fragment

/-! ### Alignment -/

theorem nameProperty_unmarked :
    NameProperty fun name => Placeholder.mark ∉ name.toList where
  trim _ h := fun hmark => h (Text.mem_of_mem_trim hmark)
  word _ h _ hw := fun hmark => h (Text.mem_of_mem_words hw hmark)

theorem Writer.mark_notMem_identifier {w : Writer} (hopen : w.dialect.openQuote ≠ Placeholder.mark)
    (hclose : w.dialect.closeQuote ≠ Placeholder.mark) {name : String}
    (h : Placeholder.mark ∉ name.toList) : Placeholder.mark ∉ (w.identifier name).toList := by
  unfold identifier
  split
  · intro hmark
    rcases Dialect.mem_quote hmark with hdot | heq | heq | hmem
    · exact absurd hdot (by decide)
    · exact hopen heq.symm
    · exact hclose heq.symm
    · exact h hmem
  · exact h

namespace Query

/-- **The text and the bindings of a statement are aligned.**  Both come from one sequence of texts
and bound places: the bindings are its bound places, which are those that the clauses of the query
ask for, and the text has the placeholder of `k` for the `k`-th of them.  So there are as many
placeholders as bindings, and none runs on into a digit of the compiler's own text. -/
theorem compile_aligned {d : Dialect} {quoting : Bool} {q : Query} {s : Statement}
    (hopen : d.openQuote ≠ Placeholder.mark) (hclose : d.closeQuote ≠ Placeholder.mark)
    (hnames : ∀ name ∈ q.names, Placeholder.mark ∉ name.toList)
    (hraws : ∀ r ∈ q.raws, Placeholder.count r.1 = r.2.length)
    (h : q.compile d quoting = .ok s) :
    ∃ f, q.fragment d = .ok f ∧
      s.bindings = Span.bindings (f.spans (q.writer d quoting)) ∧
      s.bindings = q.boundBindings d ∧
      s.sql = String.ofList (Span.numbered d 1 (f.spans (q.writer d quoting))) ∧
      Placeholder.count (f.neutral (q.writer d quoting)) = s.bindings.length ∧
      Span.NoDigitAfter (f.spans (q.writer d quoting)) := by
  obtain ⟨draft, hdraft, rfl⟩ := compile_eq_ok.mp h
  have hf := fragment_of_draft hdraft
  set f := draft.fragment
  have hlaid : f.LaidAligned := laid_fragment nameProperty_unmarked hnames hraws hf
  have hclean : ∀ span ∈ f.spans (q.writer d quoting), span.Clean :=
    Fragment.clean_spans hlaid fun _ hname => Writer.mark_notMem_identifier hopen hclose hname
  have hbindings : Span.bindings (f.spans (q.writer d quoting)) = f.bindings :=
    Fragment.bindings_spans hlaid
  refine ⟨f, hf, hbindings.symm, bindings_fragment hf, ?_, ?_, Fragment.noDigitAfter_spans hlaid⟩
  · rw [← Span.positionFrom_flatMap_neutral d hclean, Fragment.neutral_spans]
    exact Placeholder.position_eq d.placeholderStyle _
  · rw [Placeholder.count, ← Fragment.neutral_spans, Span.count_flatMap_neutral hclean, hbindings]
    rfl

/-- An update with a condition in SQL and a condition on a window of another table. -/
def narrowUpdate : Query :=
  { Query.update "stock.items" [("count", .int 0), ("note", .null)] with
    conditions :=
      [.raw "a = ? or b = ?" [.int 1, .int 2],
        .not (.inQuery "id"
          { Query.select "old" with
            columns := ["item AS id"]
            conditions := [.compare "kind" .like (.text "x%")]
            offset := some 7 })]
    returning := some ["id"] }

theorem compile_aligned_narrowUpdate :
    ∃ s, narrowUpdate.compile .oracle true = .ok s ∧ s.bindings.length = 8 ∧
      ∃ f, narrowUpdate.fragment .oracle = .ok f ∧
        s.bindings = Span.bindings (f.spans (narrowUpdate.writer .oracle true)) ∧
        s.bindings = narrowUpdate.boundBindings .oracle ∧
        s.sql =
          String.ofList (Span.numbered .oracle 1 (f.spans (narrowUpdate.writer .oracle true))) ∧
        Placeholder.count (f.neutral (narrowUpdate.writer .oracle true)) = s.bindings.length ∧
        Span.NoDigitAfter (f.spans (narrowUpdate.writer .oracle true)) :=
  ⟨_, compile_of_draft rfl, rfl,
    compile_aligned (by decide) (by decide) (by decide) (by decide) (compile_of_draft rfl)⟩

end Query

end PolySql

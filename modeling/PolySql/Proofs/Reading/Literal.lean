import PolySql.Proofs.Reading.Clauses

/-!
# Lexemes of texts with literals

A condition in SQL may hold literals, in single quotes, and what stands in a literal is no word of
the language.  `scanText` cuts a text as `scan` does, with each literal as one word; texts without
single quotes have the same lexemes for both (`scanTextFrom_eq_scanFrom`).

A text that can be read by itself is read alike before everything that starts with a separator
(`scanTextFrom_append`).  So the lexemes of a fragment are those of its pieces, conditions in SQL
among them (`Fragment.scanText_neutral`).
-/

namespace PolySql

/-! ### Scanning -/

/-- The quote around a literal. -/
def literalQuote : Char := '\''

/-- Where in a text with literals a reader is. -/
inductive TextMode where
  /-- Outside of literals. -/
  | outside (mode : ScanMode)
  /-- In a literal, behind the given characters of it. -/
  | literal (cs : List Char)
  /-- Behind a quote that may end a literal, or be the first of two. -/
  | literalEnd (cs : List Char)

namespace TextMode

/-- Outside of all quotes, behind no part of a word. -/
def atStart : TextMode :=
  .outside (.plain [])

/-- Read a character outside of all quotes, behind a part of a word. -/
def start (d : Dialect) (cs : List Char) (c : Char) : List Lexeme × TextMode :=
  if c = literalQuote then (Lexeme.ofWord cs, .literal [c])
  else ((ScanMode.start d cs c).1, .outside (ScanMode.start d cs c).2)

/-- Read a character. -/
def step (d : Dialect) : TextMode → Char → List Lexeme × TextMode
  | .outside (.plain cs), c => start d cs c
  | .outside (.inside cs), c =>
    if c = d.closeQuote then ([], .outside (.closing cs)) else ([], .outside (.inside (cs ++ [c])))
  | .outside (.closing cs), c =>
    if c = d.closeQuote then ([], .outside (.inside (cs ++ [c])))
    else (.quoted (String.ofList cs) :: (start d [] c).1, (start d [] c).2)
  | .literal cs, c =>
    if c = literalQuote then ([], .literalEnd (cs ++ [c])) else ([], .literal (cs ++ [c]))
  | .literalEnd cs, c =>
    if c = literalQuote then ([], .literal (cs ++ [c]))
    else (.word (String.ofList cs) :: (start d [] c).1, (start d [] c).2)

/-- What is left to be read at the end of a text; literals have to be closed. -/
def finish : TextMode → Option (List Lexeme)
  | .outside mode => mode.finish
  | .literal _ => none
  | .literalEnd cs => some [.word (String.ofList cs)]

end TextMode

/-- The lexemes of a text with literals, from a place in it. -/
def scanTextFrom (d : Dialect) : TextMode → List Char → Option (List Lexeme)
  | mode, [] => mode.finish
  | mode, c :: cs => before (mode.step d c).1 (scanTextFrom d (mode.step d c).2 cs)

/-- The lexemes of a text with literals. -/
def scanText (d : Dialect) (s : String) : Option (List Lexeme) :=
  scanTextFrom d .atStart s.toList

/-- Quotes of names that cannot be mistaken for anything else, literals included. -/
structure Dialect.LiteralsApart (d : Dialect) : Prop extends d.QuotesApart where
  openLiteral : d.openQuote ≠ literalQuote

theorem Engine.literalsApart (engine : Engine) : engine.dialect.LiteralsApart where
  toQuotesApart := engine.quotesApart
  openLiteral := by cases engine <;> decide

section Scan

variable {d : Dialect}

theorem scanTextFrom_cons (mode : TextMode) (c : Char) (cs : List Char) :
    scanTextFrom d mode (c :: cs) =
      before (mode.step d c).1 (scanTextFrom d (mode.step d c).2 cs) :=
  rfl

theorem before_eq_some {ls ms : List Lexeme} {rest : Option (List Lexeme)} :
    before ls rest = some ms ↔ ∃ ns, rest = some ns ∧ ms = ls ++ ns := by
  rw [before, Option.map_eq_some_iff]
  exact exists_congr fun ns => and_congr_right fun _ => eq_comm

theorem TextMode.start_of_ne {c : Char} (hc : c ≠ literalQuote) (cs : List Char) :
    start d cs c = ((ScanMode.start d cs c).1, .outside (ScanMode.start d cs c).2) :=
  if_neg hc

/-- Without single quotes there are no literals, and a text is read as before. -/
theorem scanTextFrom_eq_scanFrom (mode : ScanMode) {cs : List Char} (h : literalQuote ∉ cs) :
    scanTextFrom d (.outside mode) cs = scanFrom d mode cs := by
  induction cs generalizing mode with
  | nil => rfl
  | cons c cs ih =>
    rw [List.mem_cons, not_or] at h
    obtain ⟨hc, hcs⟩ := h
    have hstep : TextMode.step d (.outside mode) c =
        ((mode.step d c).1, .outside (mode.step d c).2) := by
      have hstart := fun word => TextMode.start_of_ne (d := d) (fun heq => hc heq.symm) word
      cases mode with
      | plain word => exact hstart word
      | inside name => rw [TextMode.step, ScanMode.step]; split <;> rfl
      | closing name => rw [TextMode.step, ScanMode.step]; split <;> simp [hstart]
    rw [scanTextFrom_cons, scanFrom_cons, hstep, ih _ hcs]

/-! ### Texts one after the other -/

theorem literalQuote_not_isSeparator : ¬ isSeparator literalQuote := by
  decide

theorem TextMode.start_of_isSeparator (hd : d.QuotesApart) {c : Char} (hc : isSeparator c)
    (cs : List Char) : start d cs c = (Lexeme.ofWord cs ++ Lexeme.ofSeparator c, .atStart) := by
  have hne : c ≠ literalQuote := by
    rintro rfl
    exact literalQuote_not_isSeparator hc
  rw [start_of_ne hne, ScanMode.start_of_isSeparator hd hc]
  rfl

/-- A separator is read for itself. -/
theorem scanTextFrom_separator (hd : d.QuotesApart) {c : Char} (hc : isSeparator c)
    (cs : List Char) :
    scanTextFrom d .atStart (c :: cs) =
      before (Lexeme.ofSeparator c) (scanTextFrom d .atStart cs) := by
  rw [scanTextFrom_cons, TextMode.atStart, TextMode.step, TextMode.start_of_isSeparator hd hc]
  rfl

/-- What is left to be read at the end of a text is read before a separator too. -/
theorem scanTextFrom_of_finish (hd : d.QuotesApart) {mode : TextMode} {ls : List Lexeme}
    (h : mode.finish = some ls) {rest : List Char} (hrest : StartsApart rest) :
    scanTextFrom d mode rest = before ls (scanTextFrom d .atStart rest) := by
  cases rest with
  | nil =>
    rw [scanTextFrom, h, scanTextFrom]
    simp [TextMode.atStart, TextMode.finish, ScanMode.finish, Lexeme.ofWord]
  | cons c cs =>
    have hc : isSeparator c := hrest c rfl
    have hstart := fun word => TextMode.start_of_isSeparator hd hc word
    have hliteral : c ≠ literalQuote := by
      rintro rfl
      exact literalQuote_not_isSeparator hc
    have hclose : c ≠ d.closeQuote := by
      rintro rfl
      exact hd.closeSeparator hc
    rw [scanTextFrom_separator hd hc, before_before, scanTextFrom_cons]
    -- whatever the mode, the separator ends it
    cases mode with
    | outside mode =>
      cases mode with
      | plain word =>
        obtain rfl := Option.some.inj h
        rw [TextMode.step, hstart]
      | inside name => exact absurd h (by simp [TextMode.finish, ScanMode.finish])
      | closing name =>
        obtain rfl := Option.some.inj h
        rw [TextMode.step, if_neg hclose, hstart]
        rfl
    | literal word => exact absurd h (by simp [TextMode.finish])
    | literalEnd word =>
      obtain rfl := Option.some.inj h
      rw [TextMode.step, if_neg hliteral, hstart]
      rfl

/-- A text that can be read by itself is read alike before everything that starts apart. -/
theorem scanTextFrom_append (hd : d.QuotesApart) {mode : TextMode} {cs rest : List Char}
    {ls : List Lexeme} (h : scanTextFrom d mode cs = some ls) (hrest : StartsApart rest) :
    scanTextFrom d mode (cs ++ rest) = before ls (scanTextFrom d .atStart rest) := by
  induction cs generalizing mode ls with
  | nil => exact scanTextFrom_of_finish hd h hrest
  | cons c cs ih =>
    rw [scanTextFrom_cons] at h
    obtain ⟨ms, hms, rfl⟩ := before_eq_some.mp h
    rw [List.cons_append, scanTextFrom_cons, ih hms, before_before]

/-! ### The texts of pieces -/

/-- Words and signs have the lexemes that they have without literals. -/
theorem scanTextFrom_plain (hd : d.QuotesApart) {cs : List Char} (h : cs.all isPlain) :
    scanTextFrom d .atStart cs = some (Lexeme.ofPlain [] cs) := by
  have hliteral : literalQuote ∉ cs := by
    intro hmem
    exact absurd (List.all_eq_true.mp h _ hmem) (by decide)
  have hend : StartsApart [] := by simp [StartsApart]
  have hscan := scanFrom_append hd [] h (.inr hend)
  rw [List.append_nil] at hscan
  rw [TextMode.atStart, scanTextFrom_eq_scanFrom _ hliteral, hscan]
  simp [scanFrom, ScanMode.finish, Lexeme.ofWord]

/-- What stands between the quotes of a name is read up to a closing quote that is not doubled,
single quotes included. -/
theorem scanTextFrom_inside (start segment rest : List Char) :
    scanTextFrom d (.outside (.inside start)) (d.doubled segment ++ d.closeQuote :: rest) =
      scanTextFrom d (.outside (.closing (start ++ segment))) rest := by
  induction segment generalizing start with
  | nil => simp [Dialect.doubled, scanTextFrom, TextMode.step]
  | cons c segment ih =>
    rw [Dialect.doubled_cons]
    have hnext := ih (start ++ [c])
    by_cases hc : c = d.closeQuote
    · -- the first of the two quotes seems to close the name, the second one takes that back
      simpa [hc, scanTextFrom, TextMode.step] using hnext
    · simpa [hc, scanTextFrom, TextMode.step] using hnext

theorem scanTextFrom_quoteSegment (hd : d.LiteralsApart) (segment : List Char) :
    scanTextFrom d .atStart (d.quoteSegment segment) = some (Lexeme.ofSegment segment) := by
  unfold Dialect.quoteSegment Lexeme.ofSegment
  split
  · rename_i hstar
    rw [hstar]
    exact scanTextFrom_plain hd.toQuotesApart rfl
  · have hopen : TextMode.step d .atStart d.openQuote = ([], .outside (.inside [])) := by
      rw [TextMode.atStart, TextMode.step, TextMode.start_of_ne hd.openLiteral, ScanMode.start,
        if_pos rfl]
      rfl
    rw [List.cons_append, scanTextFrom_cons, hopen, scanTextFrom_inside, before_nil]
    rfl

theorem scanTextFrom_quote (hd : d.LiteralsApart) (name : String) :
    scanTextFrom d .atStart (d.quote name).toList = some (Lexeme.ofName name) := by
  rw [Dialect.quote, String.toList_ofList, Lexeme.ofName]
  induction Dialect.segments name with
  | nil => rfl
  | cons segment segments ih =>
    cases segments with
    | nil => simpa using scanTextFrom_quoteSegment hd segment
    | cons next segments =>
      have hdot : isSeparator '.' := rfl
      have hrest :
          StartsApart ('.' :: ['.'].intercalate ((next :: segments).map d.quoteSegment)) := by
        rintro c hc
        obtain rfl := Option.some.inj hc
        exact hdot
      rw [List.map_cons, List.map_cons, List.intercalate_cons_cons, List.append_assoc,
        List.singleton_append, ← List.map_cons,
        scanTextFrom_append hd.toQuotesApart (scanTextFrom_quoteSegment hd segment) hrest,
        scanTextFrom_separator hd.toQuotesApart hdot, ih]
      simp [Lexeme.ofSeparator]

/-- Words and signs that end in a separator are read alike before everything. -/
theorem scanTextFrom_plain_append (hd : d.QuotesApart) {cs : List Char} (h : cs.all isPlain)
    (hend : cs.getLast?.any isSeparator) (rest : List Char) :
    scanTextFrom d .atStart (cs ++ rest) =
      before (Lexeme.ofPlain [] cs) (scanTextFrom d .atStart rest) := by
  obtain ⟨front, c, rfl⟩ : ∃ front c, cs = front ++ [c] := by
    cases cs using List.reverseRecOn with
    | nil => simp at hend
    | append_singleton front c => exact ⟨front, c, rfl⟩
  have hc : isSeparator c := by simpa using hend
  have hfront : front.all isPlain := by
    rw [List.all_append, Bool.and_eq_true] at h
    exact h.1
  have happend (rest : List Char) : scanTextFrom d .atStart (front ++ c :: rest) =
      before (Lexeme.ofPlain [] front ++ Lexeme.ofSeparator c) (scanTextFrom d .atStart rest) := by
    have hstart : StartsApart (c :: rest) := by
      rintro c' hc'
      obtain rfl := Option.some.inj hc'
      exact hc
    rw [scanTextFrom_append hd (scanTextFrom_plain hd hfront) hstart, scanTextFrom_separator hd hc,
      before_before]
  -- before nothing at all, the text has its own lexemes
  have hself : Lexeme.ofPlain [] (front ++ [c]) =
      Lexeme.ofPlain [] front ++ Lexeme.ofSeparator c := by
    have hnil : scanTextFrom d .atStart [] = some [] := rfl
    have hscan := happend []
    rw [scanTextFrom_plain hd h, hnil, before_some, List.append_nil] at hscan
    exact Option.some.inj hscan
  rw [List.append_assoc, List.singleton_append, happend, hself]

end Scan

/-! ### The texts of fragments -/

/-- The lexemes of a piece whose names are quoted, conditions in SQL included. -/
def Piece.textLexemes (d : Dialect) : Piece → List Lexeme
  | .raw sql _ => (scanText d sql).getD []
  | p => p.lexemes

/-- The lexemes of a fragment whose names are quoted, conditions in SQL included. -/
def Fragment.textLexemes (d : Dialect) (f : Fragment) : List Lexeme :=
  f.flatMap (Piece.textLexemes d)

namespace Fragment

variable {d : Dialect}

@[simp] theorem textLexemes_nil : textLexemes d [] = [] := rfl

@[simp] theorem textLexemes_cons (p : Piece) (f : Fragment) :
    textLexemes d (p :: f) = p.textLexemes d ++ textLexemes d f := rfl

@[simp] theorem textLexemes_append (f g : Fragment) :
    textLexemes d (f ++ g) = textLexemes d f ++ textLexemes d g :=
  List.flatMap_append

/-- Where there is no condition in SQL, lexemes are the same with literals and without. -/
theorem textLexemes_eq_lexemes {N : String → Prop} {f : Fragment}
    (hf : f.Laid N fun _ _ => False) : f.textLexemes d = f.lexemes := by
  refine List.flatMap_congr fun p hp => ?_
  cases p with
  | raw sql values => exact (hf.pieces _ hp).elim
  | _ => rfl

/-- A piece whose condition in SQL, if it is one, can be read by itself. -/
theorem scanTextFrom_piece (hd : d.LiteralsApart) {N : String → Prop} {p : Piece}
    (hp : p.Over N fun sql _ => (scanText d sql).isSome) {rest : List Char}
    (h : p.endsApart ∨ StartsApart rest) :
    scanTextFrom d .atStart ((p.neutral ⟨d, true⟩).toList ++ rest) =
      before (p.textLexemes d) (scanTextFrom d .atStart rest) := by
  cases p with
  | text s =>
    rcases h with hend | hrest
    · exact scanTextFrom_plain_append hd.toQuotesApart hp hend rest
    · exact scanTextFrom_append hd.toQuotesApart (scanTextFrom_plain hd.toQuotesApart hp) hrest
  | ident name =>
    have hrest : StartsApart rest := h.resolve_left (by simp [Piece.endsApart])
    exact scanTextFrom_append hd.toQuotesApart (scanTextFrom_quote hd name) hrest
  | raw sql values =>
    have hrest : StartsApart rest := h.resolve_left (by simp [Piece.endsApart])
    obtain ⟨ls, hls⟩ := Option.isSome_iff_exists.mp hp
    have hself : Piece.textLexemes d (.raw sql values) = ls := by
      rw [Piece.textLexemes, hls, Option.getD_some]
    rw [hself]
    exact scanTextFrom_append hd.toQuotesApart hls hrest
  | bound b =>
    have hrest : StartsApart rest := h.resolve_left (by simp [Piece.endsApart])
    have hmark : '?' ≠ d.openQuote := fun heq => hd.openMark heq.symm
    have hword : ¬ isSeparator '?' := by decide
    have htext : (Piece.neutral ⟨d, true⟩ (.bound b)).toList = ['?'] := by
      rw [Piece.neutral]
      rfl
    have hscan : scanTextFrom d .atStart ['?'] = some [.word "?"] := by
      rw [TextMode.atStart, scanTextFrom_eq_scanFrom _ (by decide), scanFrom_cons, ScanMode.step,
        ScanMode.start, if_neg hmark, if_neg hword]
      rfl
    rw [htext]
    exact scanTextFrom_append hd.toQuotesApart hscan hrest

/-- **The lexemes of the text of a fragment are those of its pieces**, where every condition in SQL
can be read by itself. -/
theorem scanText_neutral (hd : d.LiteralsApart) {N : String → Prop} {f : Fragment}
    (hf : f.Laid N fun sql _ => (scanText d sql).isSome) :
    scanText d (f.neutral ⟨d, true⟩) = some (f.textLexemes d) := by
  rw [scanText, Fragment.neutral, String.toList_ofList]
  induction f with
  | nil => rfl
  | cons p f ih =>
    obtain ⟨hp, hnext, hlaid⟩ := laid_cons.mp hf
    rw [List.flatMap_cons, scanTextFrom_piece hd hp, ih hlaid, before_some]
    · rfl
    -- the piece ends apart, or what is behind it starts apart
    · cases f with
      | nil => exact .inr (by simp [StartsApart])
      | cons q f =>
        rcases hnext q rfl with hends | hstarts
        · exact .inl hends
        · rw [List.flatMap_cons]
          exact .inr (startsApart_neutral hstarts _ _)

end Fragment

end PolySql

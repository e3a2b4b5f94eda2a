import PolySql.Dialect.Builtin
import PolySql.Proofs.Fragment.Layout

/-!
# The lexemes of a statement

`scan` cuts a text into words, signs and quoted names, as any reader of SQL does that knows the
quotes of the dialect: what stands between quotes is opaque, a closing quote inside of them is
written twice, blanks separate and mean nothing else.

The pieces of a fragment that is laid out do not run into each other, so the lexemes of its text are
those of its pieces, one after the other (`Fragment.scan_neutral`).
-/

namespace PolySql

/-! ### Scanning -/

/-- A smallest part of a text with a meaning of its own. -/
inductive Lexeme where
  | word (s : String)
  | sign (c : Char)
  | quoted (s : String)
  deriving DecidableEq, Repr

namespace Lexeme

/-- Whether a lexeme is a word of the language, in any letter case. -/
def isKeyword (keyword : String) : Lexeme → Bool
  | .word s => Text.lowerAscii s == keyword
  | _ => false

/-- The lexemes of a word that has ended. -/
def ofWord (cs : List Char) : List Lexeme :=
  if cs.isEmpty then [] else [.word (String.ofList cs)]

/-- The lexemes of a separator. -/
def ofSeparator (c : Char) : List Lexeme :=
  if c = ' ' then [] else [.sign c]

end Lexeme

/-- Where in a text a reader is. -/
inductive ScanMode where
  /-- Outside of quotes, behind the given characters of a word. -/
  | plain (cs : List Char)
  /-- Inside of quotes, behind the given characters of a name. -/
  | inside (cs : List Char)
  /-- Behind a closing quote, which may turn out to be the first of two. -/
  | closing (cs : List Char)

namespace ScanMode

/-- Read a character outside of quotes, behind a part of a word. -/
def start (d : Dialect) (cs : List Char) (c : Char) : List Lexeme × ScanMode :=
  if c = d.openQuote then (Lexeme.ofWord cs, .inside [])
  else if isSeparator c then (Lexeme.ofWord cs ++ Lexeme.ofSeparator c, .plain [])
  else ([], .plain (cs ++ [c]))

/-- Read a character. -/
def step (d : Dialect) : ScanMode → Char → List Lexeme × ScanMode
  | .plain cs, c => start d cs c
  | .inside cs, c => if c = d.closeQuote then ([], .closing cs) else ([], .inside (cs ++ [c]))
  | .closing cs, c =>
    if c = d.closeQuote then ([], .inside (cs ++ [c]))
    else (.quoted (String.ofList cs) :: (start d [] c).1, (start d [] c).2)

/-- What is left to be read at the end of a text; quotes have to be closed. -/
def finish : ScanMode → Option (List Lexeme)
  | .plain cs => some (Lexeme.ofWord cs)
  | .inside _ => none
  | .closing cs => some [.quoted (String.ofList cs)]

end ScanMode

/-- Lexemes before those of the rest of a text. -/
def before (ls : List Lexeme) (rest : Option (List Lexeme)) : Option (List Lexeme) :=
  rest.map (ls ++ ·)

/-- The lexemes of a text, from a place in it. -/
def scanFrom (d : Dialect) : ScanMode → List Char → Option (List Lexeme)
  | mode, [] => mode.finish
  | mode, c :: cs => before (mode.step d c).1 (scanFrom d (mode.step d c).2 cs)

/-- The lexemes of a text. -/
def scan (d : Dialect) (s : String) : Option (List Lexeme) :=
  scanFrom d (.plain []) s.toList

@[simp] theorem before_nil (rest : Option (List Lexeme)) : before [] rest = rest := by
  simp [before]

@[simp] theorem before_before (ls ms : List Lexeme) (rest : Option (List Lexeme)) :
    before ls (before ms rest) = before (ls ++ ms) rest := by
  simp [before, Function.comp_def]

@[simp] theorem before_some (ls ms : List Lexeme) : before ls (some ms) = some (ls ++ ms) := rfl

/-! ### The lexemes of pieces -/

namespace Lexeme

/-- The lexemes of plain characters, behind a part of a word. -/
def ofPlain (start : List Char) : List Char → List Lexeme
  | [] => ofWord start
  | c :: cs =>
    if isSeparator c then ofWord start ++ ofSeparator c ++ ofPlain [] cs
    else ofPlain (start ++ [c]) cs

/-- The lexemes of a segment of a quoted name. -/
def ofSegment (segment : List Char) : List Lexeme :=
  if segment = ['*'] then [.sign '*'] else [.quoted (String.ofList segment)]

/-- The lexemes of a quoted name. -/
def ofName (name : String) : List Lexeme :=
  List.intercalate [.sign '.'] ((Dialect.segments name).map ofSegment)

end Lexeme

/-- The lexemes of a piece whose names are quoted; conditions in SQL have none here. -/
def Piece.lexemes : Piece → List Lexeme
  | .text s => Lexeme.ofPlain [] s.toList
  | .ident name => Lexeme.ofName name
  | .raw _ _ => []
  | .bound _ => [.word "?"]

theorem Piece.lexemes_ident (name : String) :
    (Piece.ident name).lexemes = Lexeme.ofName name := rfl

theorem Piece.lexemes_value (v : Value) : (Piece.value v).lexemes = [.word "?"] := rfl

/-- The lexemes of a fragment whose names are quoted. -/
def Fragment.lexemes (f : Fragment) : List Lexeme :=
  f.flatMap Piece.lexemes

/-- Quotes that cannot be mistaken for anything else that the compiler writes, as is true of the
quotes of every engine (`Engine.quotesApart`). -/
structure Dialect.QuotesApart (d : Dialect) : Prop where
  openPlain : ¬ isPlain d.openQuote
  openMark : d.openQuote ≠ Placeholder.mark
  closeSeparator : ¬ isSeparator d.closeQuote

theorem Engine.quotesApart (engine : Engine) : engine.dialect.QuotesApart := by
  cases engine <;> exact ⟨by decide, by decide, by decide⟩

/-! ### Scanning plain characters -/

/-- Whether a text keeps itself apart from what stands before it. -/
def StartsApart (cs : List Char) : Prop :=
  ∀ c ∈ cs.head?, isSeparator c

section Scan

variable {d : Dialect}

/-- A separator ends the word before it. -/
theorem ScanMode.start_of_isSeparator (hd : d.QuotesApart) {c : Char} (hc : isSeparator c)
    (cs : List Char) :
    start d cs c = (Lexeme.ofWord cs ++ Lexeme.ofSeparator c, .plain []) := by
  have hopen : c ≠ d.openQuote := by
    rintro rfl
    exact hd.openPlain (by simp [isPlain, hc])
  rw [start, if_neg hopen, if_pos hc]

/-- A plain character that is no separator continues the word before it. -/
theorem ScanMode.start_of_isPlain (hd : d.QuotesApart) {c : Char} (hc : isPlain c)
    (hword : ¬ isSeparator c) (cs : List Char) : start d cs c = ([], .plain (cs ++ [c])) := by
  have hopen : c ≠ d.openQuote := by
    rintro rfl
    exact hd.openPlain hc
  rw [start, if_neg hopen, if_neg hword]

theorem scanFrom_cons (mode : ScanMode) (c : Char) (cs : List Char) :
    scanFrom d mode (c :: cs) = before (mode.step d c).1 (scanFrom d (mode.step d c).2 cs) := rfl

/-- A word ends where something starts that keeps itself apart. -/
theorem scanFrom_plain (hd : d.QuotesApart) (start : List Char) {rest : List Char}
    (h : StartsApart rest) :
    scanFrom d (.plain start) rest =
      before (Lexeme.ofWord start) (scanFrom d (.plain []) rest) := by
  cases rest with
  | nil => simp [scanFrom, ScanMode.finish, Lexeme.ofWord]
  | cons c cs =>
    have hc : isSeparator c := h c rfl
    simp [scanFrom, ScanMode.step, ScanMode.start_of_isSeparator hd hc, Lexeme.ofWord]

/-- Plain characters are read for themselves where they and the rest are kept apart. -/
theorem scanFrom_append (hd : d.QuotesApart) (start : List Char) {cs rest : List Char}
    (hcs : cs.all isPlain) (h : cs.getLast?.any isSeparator ∨ StartsApart rest) :
    scanFrom d (.plain start) (cs ++ rest) =
      before (Lexeme.ofPlain start cs) (scanFrom d (.plain []) rest) := by
  induction cs generalizing start with
  | nil => exact scanFrom_plain hd start (h.resolve_left (by simp))
  | cons c cs ih =>
    rw [List.all_cons, Bool.and_eq_true] at hcs
    rw [List.cons_append, scanFrom_cons, ScanMode.step, Lexeme.ofPlain]
    by_cases hc : isSeparator c
    · have htail : scanFrom d (.plain []) (cs ++ rest) =
          before (Lexeme.ofPlain [] cs) (scanFrom d (.plain []) rest) := by
        cases cs with
        | nil => simp [Lexeme.ofPlain, Lexeme.ofWord]
        | cons next cs => exact ih [] hcs.2 (by simpa using h)
      rw [ScanMode.start_of_isSeparator hd hc, if_pos hc, htail, before_before]
    · have hlast : cs.getLast?.any isSeparator ∨ StartsApart rest := by
        cases cs with
        | nil => exact .inr (h.resolve_left (by simpa using hc))
        | cons next cs => simpa using h
      rw [ScanMode.start_of_isPlain hd hcs.1 hc, if_neg hc, ih _ hcs.2 hlast, before_nil]

/-! ### Scanning names -/

/-- What stands between quotes is read up to a closing quote that is not doubled. -/
theorem scanFrom_inside (start segment rest : List Char) :
    scanFrom d (.inside start) (d.doubled segment ++ d.closeQuote :: rest) =
      scanFrom d (.closing (start ++ segment)) rest := by
  induction segment generalizing start with
  | nil => simp [Dialect.doubled, scanFrom, ScanMode.step]
  | cons c segment ih =>
    have hdoubled : d.doubled (c :: segment) =
        (if c = d.closeQuote then [c, c] else [c]) ++ d.doubled segment := rfl
    rw [hdoubled]
    by_cases hc : c = d.closeQuote
    · -- The first of the two quotes seems to close the name, the second one takes that back.
      have hsecond := ih (start ++ [c])
      simpa [hc, scanFrom, ScanMode.step] using hsecond
    · have hnext := ih (start ++ [c])
      simpa [hc, scanFrom, ScanMode.step] using hnext

theorem scanFrom_closing (hd : d.QuotesApart) (segment : List Char) {rest : List Char}
    (h : StartsApart rest) :
    scanFrom d (.closing segment) rest =
      before [.quoted (String.ofList segment)] (scanFrom d (.plain []) rest) := by
  cases rest with
  | nil => simp [scanFrom, ScanMode.finish, Lexeme.ofWord]
  | cons c cs =>
    have hclose : c ≠ d.closeQuote := by
      rintro rfl
      exact hd.closeSeparator (h _ rfl)
    simp [scanFrom, ScanMode.step, hclose]

/-- A quoted segment is read as itself, whatever characters it has. -/
theorem scanFrom_quoteSegment (hd : d.QuotesApart) (segment : List Char) {rest : List Char}
    (h : StartsApart rest) :
    scanFrom d (.plain []) (d.quoteSegment segment ++ rest) =
      before (Lexeme.ofSegment segment) (scanFrom d (.plain []) rest) := by
  unfold Dialect.quoteSegment Lexeme.ofSegment
  split
  · rename_i hstar
    subst hstar
    have hplain : ['*'].all isPlain := rfl
    exact scanFrom_append hd [] hplain (.inl rfl)
  · have hquoted : d.openQuote :: d.doubled segment ++ [d.closeQuote] ++ rest =
        d.openQuote :: (d.doubled segment ++ d.closeQuote :: rest) := by simp
    rw [hquoted, scanFrom_cons, ScanMode.step, ScanMode.start, if_pos rfl, scanFrom_inside,
      List.nil_append, scanFrom_closing hd segment h]
    simp [Lexeme.ofWord]

theorem scanFrom_quote (hd : d.QuotesApart) (name : String) {rest : List Char}
    (h : StartsApart rest) :
    scanFrom d (.plain []) ((d.quote name).toList ++ rest) =
      before (Lexeme.ofName name) (scanFrom d (.plain []) rest) := by
  rw [Dialect.quote, String.toList_ofList, Lexeme.ofName]
  -- segment by segment: the dot after a segment closes it for good
  induction Dialect.segments name with
  | nil => simp
  | cons segment segments ih =>
    cases segments with
    | nil => simpa using scanFrom_quoteSegment hd segment h
    | cons next segments =>
      have hdot : ∀ cs, StartsApart ('.' :: cs) := fun cs c hc => by
        obtain rfl := Option.some.inj hc
        rfl
      simp only [List.map_cons, List.intercalate_cons_cons, List.append_assoc, List.cons_append,
        List.nil_append] at ih ⊢
      rw [scanFrom_quoteSegment hd segment (hdot _), scanFrom_cons, ScanMode.step,
        ScanMode.start_of_isSeparator hd rfl, ih]
      simp [Lexeme.ofWord, Lexeme.ofSeparator]

/-! ### Scanning fragments -/

theorem startsApart_neutral {p : Piece} (hp : p.startsApart) (w : Writer) (rest : List Char) :
    StartsApart ((p.neutral w).toList ++ rest) := by
  cases p with
  | text s =>
    intro c hc
    rw [Piece.startsApart, Option.any_eq_true] at hp
    obtain ⟨first, hfirst, hseparator⟩ := hp
    rw [Piece.neutral, List.head?_append, hfirst] at hc
    obtain rfl := Option.some.inj hc
    exact hseparator
  | ident name => exact absurd hp (by simp [Piece.startsApart])
  | raw sql values => exact absurd hp (by simp [Piece.startsApart])
  | bound b => exact absurd hp (by simp [Piece.startsApart])

variable {N : String → Prop}

theorem scanFrom_piece (hd : d.QuotesApart) {p : Piece} (hp : p.Over N fun _ _ => False)
    {rest : List Char} (h : p.endsApart ∨ StartsApart rest) :
    scanFrom d (.plain []) ((p.neutral ⟨d, true⟩).toList ++ rest) =
      before p.lexemes (scanFrom d (.plain []) rest) := by
  cases p with
  | text s => exact scanFrom_append hd [] hp h
  | ident name =>
    have hrest : StartsApart rest := h.resolve_left (by simp [Piece.endsApart])
    exact scanFrom_quote hd name hrest
  | raw sql values => exact hp.elim
  | bound b =>
    have hrest : StartsApart rest := h.resolve_left (by simp [Piece.endsApart])
    have hmark : '?' ≠ d.openQuote := fun heq => hd.openMark heq.symm
    have hword : ¬ isSeparator '?' := by decide
    rw [Piece.neutral, show "?".toList = ['?'] from rfl, List.singleton_append, scanFrom_cons,
      ScanMode.step, ScanMode.start, if_neg hmark, if_neg hword, before_nil,
      scanFrom_plain hd _ hrest]
    rfl

theorem scanFrom_neutral (hd : d.QuotesApart) {f : Fragment} (hf : f.Laid N fun _ _ => False)
    {rest : List Char} (h : StartsApart rest) :
    scanFrom d (.plain []) ((f.neutral ⟨d, true⟩).toList ++ rest) =
      before f.lexemes (scanFrom d (.plain []) rest) := by
  rw [Fragment.neutral, String.toList_ofList]
  induction f with
  | nil => simp [Fragment.lexemes]
  | cons p f ih =>
    obtain ⟨hp, hnext, hlaid⟩ := Fragment.laid_cons.mp hf
    rw [List.flatMap_cons, List.append_assoc, scanFrom_piece hd hp, ih hlaid, before_before]
    · rfl
    -- the piece ends apart, or what is behind it starts apart
    · cases f with
      | nil => exact .inr (by simpa using h)
      | cons q f =>
        rcases hnext q rfl with hends | hstarts
        · exact .inl hends
        · rw [List.flatMap_cons, List.append_assoc]
          exact .inr (startsApart_neutral hstarts _ _)

/-- **The lexemes of the text of a fragment are those of its pieces.** -/
theorem Fragment.scan_neutral (hd : d.QuotesApart) {f : Fragment}
    (hf : f.Laid N fun _ _ => False) : scan d (f.neutral ⟨d, true⟩) = some f.lexemes := by
  have hend : StartsApart [] := by simp [StartsApart]
  have hscan := scanFrom_neutral hd hf hend
  rw [List.append_nil] at hscan
  rw [scan, hscan]
  simp [scanFrom, ScanMode.finish, Lexeme.ofWord]

end Scan

end PolySql

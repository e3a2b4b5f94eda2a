import PolySql.Dialect.Builtin
import PolySql.Proofs.Identifier

/-!
# Reading a name back

A written name is a list of items with dots between them.  An item is the sign `*` alone, or some
characters between quotes, of which a closing quote is written twice; it stands for a segment of the
name.  `NameText` says which texts are written names and what their segments are, and `readName`
reads exactly these texts (`readName_eq_some_iff`).  `outside` takes away all that stands between
quotes in a text, as any reader of SQL does.

A quoted name has one reading, its own segments, and outside of quotes it leaves nothing but dots and
stars, whatever stands behind it (`Writer.identifier_reads_back`).
-/

namespace PolySql

/-! ### The form of a written name -/

/-- What stands between the quotes of an item, and the characters that it stands for. -/
inductive QuotedBody (close : Char) : List Char → List Char → Prop where
  | nil : QuotedBody close [] []
  | char {c : Char} {text cs : List Char} (hc : c ≠ close) (h : QuotedBody close text cs) :
      QuotedBody close (c :: text) (c :: cs)
  /-- Two closing quotes stand for one. -/
  | twice {text cs : List Char} (h : QuotedBody close text cs) :
      QuotedBody close (close :: close :: text) (close :: cs)

/-- An item of a written name, and the segment that it stands for. -/
inductive NameItem (d : Dialect) : List Char → List Char → Prop where
  | star : NameItem d ['*'] ['*']
  | quoted {text segment : List Char} (h : QuotedBody d.closeQuote text segment) :
      NameItem d (d.openQuote :: text ++ [d.closeQuote]) segment

/-- A written name, and the segments that its items stand for. -/
inductive NameText (d : Dialect) : List Char → List (List Char) → Prop where
  | last {text segment : List Char} (h : NameItem d text segment) : NameText d text [segment]
  | dot {text segment rest : List Char} {segments : List (List Char)}
      (h : NameItem d text segment) (hrest : NameText d rest segments) :
      NameText d (text ++ '.' :: rest) (segment :: segments)

/-! ### Reading -/

/-- Where in a written name a reader is. -/
inductive NameMode where
  /-- Before an item. -/
  | item
  /-- Behind a star. -/
  | star
  /-- Between quotes, behind the given characters of a segment. -/
  | inside (cs : List Char)
  /-- Behind a closing quote, which may turn out to be the first of two. -/
  | closing (cs : List Char)

/-- The segments that the rest of a written name stands for. -/
def readNameFrom (d : Dialect) : NameMode → List Char → Option (List (List Char))
  | .item, [] => none
  | .item, c :: cs =>
    if c = d.openQuote then readNameFrom d (.inside []) cs
    else if c = '*' then readNameFrom d .star cs
    else none
  | .star, [] => some [['*']]
  | .star, c :: cs => if c = '.' then (readNameFrom d .item cs).map (['*'] :: ·) else none
  | .inside _, [] => none
  | .inside segment, c :: cs =>
    if c = d.closeQuote then readNameFrom d (.closing segment) cs
    else readNameFrom d (.inside (segment ++ [c])) cs
  | .closing segment, [] => some [segment]
  | .closing segment, c :: cs =>
    if c = d.closeQuote then readNameFrom d (.inside (segment ++ [c])) cs
    else if c = '.' then (readNameFrom d .item cs).map (segment :: ·)
    else none

/-- The segments that a text stands for, if it is a written name as a whole. -/
def readName (d : Dialect) (text : String) : Option (List (List Char)) :=
  readNameFrom d .item text.toList

/-- Quotes that cannot be mistaken for the star of an item or for the dot behind it. -/
structure Dialect.QuotesNames (d : Dialect) : Prop where
  openDot : d.openQuote ≠ '.'
  openStar : d.openQuote ≠ '*'
  closeDot : d.closeQuote ≠ '.'

section Reading

variable {d : Dialect} {text segment rest : List Char} {segments : List (List Char)}

/-- What is read of a text behind an item: its end, or a dot and the other items. -/
def Behind (d : Dialect) (segment rest : List Char) (segments : List (List Char)) : Prop :=
  (rest = [] ∧ segments = [segment]) ∨
    ∃ text others, rest = '.' :: text ∧ segments = segment :: others ∧ NameText d text others

theorem NameItem.nameText_append (h : NameItem d text segment)
    (hrest : Behind d segment rest segments) : NameText d (text ++ rest) segments := by
  rcases hrest with ⟨rfl, rfl⟩ | ⟨text', others, rfl, rfl, hothers⟩
  · rw [List.append_nil]
    exact .last h
  · exact .dot h hothers

/-- What a text is from a place in it on, when it is read from there. -/
def ReadFrom (d : Dialect) : NameMode → List Char → List (List Char) → Prop
  | .item, text, segments => NameText d text segments
  | .star, text, segments => Behind d ['*'] text segments
  | .inside start, text, segments =>
    ∃ body cs rest, text = body ++ d.closeQuote :: rest ∧ QuotedBody d.closeQuote body cs ∧
      Behind d (start ++ cs) rest segments
  | .closing start, text, segments =>
    ∃ body cs rest, d.closeQuote :: text = body ++ d.closeQuote :: rest ∧
      QuotedBody d.closeQuote body cs ∧ Behind d (start ++ cs) rest segments

/-- Whatever is read has the form of a written name. -/
theorem readFrom_of_readNameFrom {mode : NameMode}
    (h : readNameFrom d mode text = some segments) : ReadFrom d mode text segments := by
  fun_induction readNameFrom d mode text generalizing segments with
  | case1 => cases h
  | case2 cs ih =>
    obtain ⟨body, inner, rest, rfl, hbody, hrest⟩ := ih h
    have htext : d.openQuote :: (body ++ d.closeQuote :: rest) =
        (d.openQuote :: body ++ [d.closeQuote]) ++ rest := by simp
    rw [ReadFrom, htext]
    exact (NameItem.quoted hbody).nameText_append hrest
  | case3 cs _ ih => exact NameItem.star.nameText_append (ih h)
  | case4 => cases h
  | case5 =>
    obtain rfl := Option.some.inj h
    exact .inl ⟨rfl, rfl⟩
  | case6 cs ih =>
    obtain ⟨others, hothers, rfl⟩ := Option.map_eq_some_iff.mp h
    exact .inr ⟨cs, others, rfl, rfl, ih hothers⟩
  | case7 => cases h
  | case8 => cases h
  | case9 start cs ih => exact ih h
  | case10 start c cs hc ih =>
    obtain ⟨body, inner, rest, rfl, hbody, hrest⟩ := ih h
    exact ⟨c :: body, c :: inner, rest, rfl, .char hc hbody, by simpa using hrest⟩
  | case11 start =>
    obtain rfl := Option.some.inj h
    exact ⟨[], [], [], rfl, .nil, .inl ⟨rfl, by simp⟩⟩
  | case12 start cs ih =>
    -- the quote before and this one are the two that stand for one
    obtain ⟨body, inner, rest, rfl, hbody, hrest⟩ := ih h
    exact ⟨d.closeQuote :: d.closeQuote :: body, d.closeQuote :: inner, rest, rfl, .twice hbody,
      by simpa using hrest⟩
  | case13 start cs _ ih =>
    obtain ⟨others, hothers, rfl⟩ := Option.map_eq_some_iff.mp h
    exact ⟨[], [], '.' :: cs, rfl, .nil, .inr ⟨cs, others, rfl, by simp, ih hothers⟩⟩
  | case14 => cases h

theorem readNameFrom_inside {body cs : List Char} (h : QuotedBody d.closeQuote body cs)
    (start rest : List Char) :
    readNameFrom d (.inside start) (body ++ d.closeQuote :: rest) =
      readNameFrom d (.closing (start ++ cs)) rest := by
  induction h generalizing start with
  | nil => simp [readNameFrom]
  | @char c text cs hc _ ih =>
    rw [List.cons_append, readNameFrom, if_neg hc, ih, List.append_assoc, List.singleton_append]
  | @twice text cs _ ih =>
    rw [List.cons_append, List.cons_append, readNameFrom, if_pos rfl, readNameFrom, if_pos rfl, ih,
      List.append_assoc, List.singleton_append]

/-- An item is read up to its end or up to the dot behind it. -/
theorem NameItem.readNameFrom_append (hd : d.QuotesNames) (h : NameItem d text segment) :
    readNameFrom d .item text = some [segment] ∧
      ∀ rest, readNameFrom d .item (text ++ '.' :: rest) =
        (readNameFrom d .item rest).map (segment :: ·) := by
  cases h with
  | star => simp [readNameFrom, hd.openStar.symm]
  | @quoted body _ hbody =>
    have hread (rest : List Char) :
        readNameFrom d .item (d.openQuote :: body ++ [d.closeQuote] ++ rest) =
          readNameFrom d (.closing segment) rest := by
      rw [List.append_assoc, List.singleton_append, List.cons_append, readNameFrom, if_pos rfl,
        readNameFrom_inside hbody, List.nil_append]
    refine ⟨?_, fun rest => ?_⟩
    · rw [← List.append_nil (d.openQuote :: body ++ [d.closeQuote]), hread, readNameFrom]
    · rw [hread, readNameFrom, if_neg hd.closeDot.symm, if_pos rfl]

/-- **The reader accepts exactly the written names.** -/
theorem readName_eq_some_iff (hd : d.QuotesNames) {s : String} :
    readName d s = some segments ↔ NameText d s.toList segments := by
  refine ⟨readFrom_of_readNameFrom, fun h => ?_⟩
  rw [readName]
  generalize s.toList = text at h
  induction h with
  | last h => exact (h.readNameFrom_append hd).1
  | dot h _ ih => rw [(h.readNameFrom_append hd).2, ih, Option.map_some]

end Reading

/-! ### What stands outside of quotes -/

/-- Where in a text a reader is that keeps to what stands outside of quotes. -/
inductive QuoteMode where
  | plain
  | quoted
  /-- Behind a closing quote, which may turn out to be the first of two. -/
  | closing

/-- The characters outside of quotes in the rest of a text. -/
def outsideFrom (d : Dialect) : QuoteMode → List Char → List Char
  | _, [] => []
  | .quoted, c :: cs =>
    if c = d.closeQuote then outsideFrom d .closing cs else outsideFrom d .quoted cs
  | .closing, c :: cs =>
    if c = d.closeQuote ∨ c = d.openQuote then outsideFrom d .quoted cs
    else c :: outsideFrom d .plain cs
  | .plain, c :: cs =>
    if c = d.openQuote then outsideFrom d .quoted cs else c :: outsideFrom d .plain cs

/-- The characters outside of quotes in a text. -/
def outside (d : Dialect) (text : List Char) : List Char :=
  outsideFrom d .plain text

/-- The dots between the segments of a name, and the segments that get no quotes. -/
def bareSigns (name : String) : List Char :=
  ['.'].intercalate <|
    (Dialect.segments name).map fun segment => if segment = ['*'] then ['*'] else []

theorem mem_bareSigns {name : String} {c : Char} (h : c ∈ bareSigns name) : c = '.' ∨ c = '*' := by
  rcases mem_of_mem_intercalate h with h | ⟨part, hpart, h⟩
  · exact .inl (List.mem_singleton.mp h)
  · obtain ⟨segment, -, rfl⟩ := List.mem_map.mp hpart
    split at h
    · exact .inr (List.mem_singleton.mp h)
    · exact absurd h List.not_mem_nil

namespace Dialect

variable {d : Dialect}

theorem outsideFrom_quoted (segment rest : List Char) :
    outsideFrom d .quoted (d.doubled segment ++ d.closeQuote :: rest) =
      outsideFrom d .closing rest := by
  induction segment with
  | nil => simp [doubled, outsideFrom]
  | cons c cs ih =>
    rw [doubled_cons]
    by_cases hc : c = d.closeQuote
    · simpa [hc, outsideFrom] using ih
    · simpa [hc, outsideFrom] using ih

/-- A closing quote that is the only one closes. -/
theorem outsideFrom_closing {rest : List Char} (h : rest.head? ≠ some d.closeQuote) :
    outsideFrom d .closing rest = outside d rest := by
  cases rest with
  | nil => rfl
  | cons c cs =>
    have hc : c ≠ d.closeQuote := fun heq => h (congrArg some heq)
    simp [outside, outsideFrom, hc]

theorem outside_quoteSegment (hd : d.QuotesNames) (segment : List Char) {rest : List Char}
    (h : rest.head? ≠ some d.closeQuote) :
    outside d (d.quoteSegment segment ++ rest) =
      (if segment = ['*'] then ['*'] else []) ++ outside d rest := by
  unfold quoteSegment
  split
  · rename_i hstar
    simp [hstar, outside, outsideFrom, hd.openStar.symm]
  · rw [List.append_assoc, List.singleton_append, List.cons_append, outside, outsideFrom,
      if_pos rfl, outsideFrom_quoted, outsideFrom_closing h, List.nil_append]

/-- A quoted name is closed where it ends, and nothing of it is outside but dots and stars. -/
theorem outside_quote (hd : d.QuotesNames) (name : String) {rest : List Char}
    (h : rest.head? ≠ some d.closeQuote) :
    outside d ((d.quote name).toList ++ rest) = bareSigns name ++ outside d rest := by
  rw [quote, String.toList_ofList, bareSigns]
  induction segments name with
  | nil => rfl
  | cons segment segments ih =>
    cases segments with
    | nil => simpa using outside_quoteSegment hd segment h
    | cons next segments =>
      have hdot (cs : List Char) : ('.' :: cs).head? ≠ some d.closeQuote := fun heq =>
        hd.closeDot (Option.some.inj heq).symm
      simp only [List.map_cons, List.intercalate_cons_cons, List.append_assoc, List.cons_append,
        List.nil_append] at ih ⊢
      rw [outside_quoteSegment hd segment (hdot _), outside, outsideFrom,
        if_neg hd.openDot.symm, ← outside, ih]

/-! ### Quoted names -/

theorem quotedBody_doubled (segment : List Char) :
    QuotedBody d.closeQuote (d.doubled segment) segment := by
  induction segment with
  | nil => exact .nil
  | cons c cs ih =>
    rw [doubled_cons]
    split
    · rename_i hc
      subst hc
      exact .twice ih
    · rename_i hc
      exact .char hc ih

theorem nameItem_quoteSegment (segment : List Char) :
    NameItem d (d.quoteSegment segment) segment := by
  unfold quoteSegment
  split
  · rename_i hstar
    subst hstar
    exact .star
  · exact .quoted (quotedBody_doubled segment)

theorem nameText_quote (name : String) : NameText d (d.quote name).toList (segments name) := by
  rw [quote, String.toList_ofList]
  have hne : segments name ≠ [] := Text.fields_ne_nil _ name.toList
  generalize segments name = parts at hne
  induction parts with
  | nil => exact absurd rfl hne
  | cons segment parts ih =>
    cases parts with
    | nil => simpa using NameText.last (nameItem_quoteSegment segment)
    | cons next parts =>
      rw [List.map_cons, List.map_cons, List.intercalate_cons_cons, ← List.map_cons,
        List.append_assoc, List.singleton_append]
      exact .dot (nameItem_quoteSegment segment) (ih (List.cons_ne_nil _ _))

end Dialect

namespace Writer

/-- **Quoted names are read back, and do not break out of their quotes.**  Whatever characters a name
has, its quoted form is a written name as a whole, and its only reading are the stretches of the name
between its dots, character by character; so different names are written differently.  Wherever a
quoted name stands, nothing of it is outside of quotes but dots and stars, and what stands behind it
is read as if nothing stood before.  The two quotes may be the same character or not. -/
theorem identifier_reads_back {d : Dialect} (hopenDot : d.openQuote ≠ '.')
    (hopenStar : d.openQuote ≠ '*') (hcloseDot : d.closeQuote ≠ '.') :
    let w : Writer := { dialect := d, quoting := true }
    (∀ name, readName d (w.identifier name) = some (Dialect.segments name) ∧
      ∀ segments, NameText d (w.identifier name).toList segments ↔
        segments = Dialect.segments name) ∧
    (∀ name, ['.'].intercalate (Dialect.segments name) = name.toList ∧
      ∀ segment ∈ Dialect.segments name, '.' ∉ segment) ∧
    Function.Injective w.identifier ∧
    ∀ name rest, rest.head? ≠ some d.closeQuote →
      outside d ((w.identifier name).toList ++ rest) = bareSigns name ++ outside d rest ∧
        ∀ c ∈ bareSigns name, c = '.' ∨ c = '*' := by
  intro w
  have hd : d.QuotesNames := ⟨hopenDot, hopenStar, hcloseDot⟩
  have hread (name : String) : readName d (w.identifier name) = some (Dialect.segments name) :=
    (readName_eq_some_iff hd).mpr (Dialect.nameText_quote name)
  refine ⟨fun name => ⟨hread name, fun segments => ?_⟩, fun name => ⟨?_, fun segment => ?_⟩, ?_,
    fun name rest hrest => ⟨Dialect.outside_quote hd name hrest, fun c => mem_bareSigns⟩⟩
  · rw [← readName_eq_some_iff hd, hread, Option.some.injEq, eq_comm]
  · exact Dialect.intercalate_segments name
  · exact Text.separator_notMem_of_mem_fields
  · exact Dialect.quote_injective hopenDot hcloseDot

/-- A name that tries to close its brackets, before a text that goes on behind it. -/
theorem identifier_reads_back_brackets :
    let w : Writer := { dialect := .mssql, quoting := true }
    Dialect.mssql.openQuote ≠ '.' ∧ Dialect.mssql.openQuote ≠ '*' ∧
      Dialect.mssql.closeQuote ≠ '.' ∧
      w.identifier "Id]] or [a..*" = "[Id]]]] or [a].[].*" ∧
      readName .mssql "[Id]]]] or [a].[].*" = some ["Id]] or [a".toList, [], ['*']] ∧
      "Id]] or [a".toList ∈ Dialect.segments "Id]] or [a..*" ∧ '.' ∉ "Id]] or [a".toList ∧
      " = 1".toList.head? ≠ some Dialect.mssql.closeQuote ∧
      outside .mssql "[Id]]]] or [a].[].* = 1".toList = "..* = 1".toList ∧
      '*' ∈ bareSigns "Id]] or [a..*" ∧ ('*' = '.' ∨ '*' = '*') := by
  intro w
  have hwritten : w.identifier "Id]] or [a..*" = "[Id]]]] or [a].[].*" := by decide +kernel
  have hsegment : "Id]] or [a".toList ∈ Dialect.segments "Id]] or [a..*" := by decide
  have hrest : " = 1".toList.head? ≠ some Dialect.mssql.closeQuote := by decide
  have hstar : '*' ∈ bareSigns "Id]] or [a..*" := by decide
  obtain ⟨hread, hsegments, -, houtside⟩ :=
    identifier_reads_back (d := .mssql) (by decide) (by decide) (by decide)
  have hname := (hread "Id]] or [a..*").1
  obtain ⟨hbehind, hbare⟩ := houtside "Id]] or [a..*" " = 1".toList hrest
  rw [hwritten] at hname hbehind
  exact ⟨by decide, by decide, by decide, hwritten, hname, hsegment,
    (hsegments _).2 _ hsegment, hrest, hbehind, hstar, hbare '*' hstar⟩

end Writer

end PolySql

import PolySql.Proofs.Identifier

/-!
# Words and the blanks between them

The words of a text are its fields between blanks, without the empty ones.  A blank sets the words
before it apart from those after it (`Text.wordRuns_append_cons`), and everything else about words
follows from that.  A text has a first word exactly if it is that word between some blanks and a
text that a blank starts (`Text.wordRuns_eq_cons_iff`).
-/

namespace PolySql.Text

/-- Nothing but blanks. -/
def IsBlanks (cs : List Char) : Prop :=
  ∀ c ∈ cs, isBlank c = true

/-- At least one blank, and nothing else. -/
structure IsGap (cs : List Char) : Prop where
  ne_nil : cs ≠ []
  blanks : IsBlanks cs

/-- A run of characters that are not blank. -/
structure IsWord (cs : List Char) : Prop where
  ne_nil : cs ≠ []
  nonblank : ∀ c ∈ cs, isBlank c = false

/-- The words of a text as lists of characters. -/
def wordRuns (cs : List Char) : List (List Char) :=
  (fields isBlank cs).filter (! ·.isEmpty)

theorem words_eq (s : String) : words s = (wordRuns s.toList).map String.ofList := rfl

theorem wordRuns_append_cons {c : Char} (hc : isBlank c = true) (cs ds : List Char) :
    wordRuns (cs ++ c :: ds) = wordRuns cs ++ wordRuns ds := by
  unfold wordRuns
  rw [fields_eq_splitOnP, List.splitOnP_append_cons cs ds hc, List.filter_append,
    ← fields_eq_splitOnP, ← fields_eq_splitOnP]

theorem wordRuns_cons {c : Char} (hc : isBlank c = true) (cs : List Char) :
    wordRuns (c :: cs) = wordRuns cs :=
  wordRuns_append_cons hc [] cs

theorem wordRuns_append_of_isBlanks {cs : List Char} (h : IsBlanks cs) (ds : List Char) :
    wordRuns (cs ++ ds) = wordRuns ds := by
  induction cs with
  | nil => rfl
  | cons c cs ih =>
    obtain ⟨hc, hcs⟩ := List.forall_mem_cons.mp h
    rw [List.cons_append, wordRuns_cons hc, ih hcs]

theorem wordRuns_of_isBlanks {cs : List Char} (h : IsBlanks cs) : wordRuns cs = [] := by
  have hnil := wordRuns_append_of_isBlanks h []
  rwa [List.append_nil] at hnil

theorem IsWord.wordRuns_eq {cs : List Char} (h : IsWord cs) : wordRuns cs = [cs] := by
  rw [wordRuns, fields_of_forall_not h.nonblank]
  simp [h.ne_nil]

/-- A word stands apart from what follows if a blank does. -/
theorem IsWord.wordRuns_append {cs : List Char} (h : IsWord cs) {ds : List Char}
    (hds : ∀ d ∈ ds.head?, isBlank d = true) : wordRuns (cs ++ ds) = cs :: wordRuns ds := by
  cases ds with
  | nil => rw [List.append_nil, h.wordRuns_eq]; rfl
  | cons d ds =>
    have hd : isBlank d = true := hds d rfl
    rw [wordRuns_append_cons hd, h.wordRuns_eq, wordRuns_cons hd, List.singleton_append]

/-- A text that is not all blank has a first word. -/
theorem exists_first_word {cs : List Char} (h : ¬ IsBlanks cs) :
    ∃ before word rest, cs = before ++ (word ++ rest) ∧ IsBlanks before ∧ IsWord word ∧
      ∀ c ∈ rest.head?, isBlank c = true := by
  induction cs with
  | nil => exact absurd (List.forall_mem_nil _) h
  | cons c cs ih =>
    by_cases hc : isBlank c = true
    · have hcs : ¬ IsBlanks cs := fun hcs => h (List.forall_mem_cons.mpr ⟨hc, hcs⟩)
      obtain ⟨before, word, rest, rfl, hbefore, hword, hrest⟩ := ih hcs
      exact ⟨c :: before, word, rest, rfl, List.forall_mem_cons.mpr ⟨hc, hbefore⟩, hword, hrest⟩
    · -- the word reaches up to the next blank
      have hsplit : cs.takeWhile (! isBlank ·) ++ cs.dropWhile (! isBlank ·) = cs :=
        List.takeWhile_append_dropWhile
      refine ⟨[], c :: cs.takeWhile (! isBlank ·), cs.dropWhile (! isBlank ·), ?_,
        List.forall_mem_nil _, ⟨List.cons_ne_nil _ _, ?_⟩, ?_⟩
      · rw [List.nil_append, List.cons_append, hsplit]
      · refine List.forall_mem_cons.mpr ⟨by simpa using hc, fun a ha => ?_⟩
        simpa using List.all_eq_true.mp List.all_takeWhile a ha
      · intro a ha
        have hhead := List.head?_dropWhile_not (! isBlank ·) cs
        rw [ha] at hhead
        simpa using hhead

/-- Only blanks have no words. -/
theorem wordRuns_eq_nil_iff {cs : List Char} : wordRuns cs = [] ↔ IsBlanks cs := by
  refine ⟨fun h => Classical.byContradiction fun hnot => ?_, wordRuns_of_isBlanks⟩
  obtain ⟨before, word, rest, rfl, hbefore, hword, hrest⟩ := exists_first_word hnot
  rw [wordRuns_append_of_isBlanks hbefore, hword.wordRuns_append hrest] at h
  cases h

/-- A text that has words starts with the first of them, after some blanks and before another one,
unless nothing follows. -/
theorem wordRuns_eq_cons_iff {cs word : List Char} {words : List (List Char)} :
    wordRuns cs = word :: words ↔ ∃ before rest, cs = before ++ (word ++ rest) ∧
      IsBlanks before ∧ IsWord word ∧ (∀ c ∈ rest.head?, isBlank c = true) ∧
      wordRuns rest = words := by
  constructor
  · intro h
    have hnot : ¬ IsBlanks cs := fun hblanks => by
      rw [wordRuns_of_isBlanks hblanks] at h
      cases h
    obtain ⟨before, first, rest, rfl, hbefore, hfirst, hrest⟩ := exists_first_word hnot
    rw [wordRuns_append_of_isBlanks hbefore, hfirst.wordRuns_append hrest] at h
    obtain ⟨rfl, rfl⟩ := List.cons.inj h
    exact ⟨before, rest, rfl, hbefore, hfirst, hrest, rfl⟩
  · rintro ⟨before, rest, rfl, hbefore, hword, hrest, rfl⟩
    rw [wordRuns_append_of_isBlanks hbefore, hword.wordRuns_append hrest]

/-! ### Three words -/

/-- A text of three words with blanks between them and perhaps around them. -/
structure IsThreeWords (cs first second third : List Char) : Prop where
  cut : ∃ before gap gap' after,
    cs = before ++ (first ++ (gap ++ (second ++ (gap' ++ (third ++ after))))) ∧
      IsBlanks before ∧ IsGap gap ∧ IsGap gap' ∧ IsBlanks after
  first : IsWord first
  second : IsWord second
  third : IsWord third

theorem IsBlanks.head? {cs : List Char} (h : IsBlanks cs) (c : Char) (hc : c ∈ cs.head?) :
    isBlank c = true :=
  h c (List.mem_of_mem_head? hc)

theorem IsGap.head?_append {gap : List Char} (h : IsGap gap) (cs : List Char) (c : Char)
    (hc : c ∈ (gap ++ cs).head?) : isBlank c = true := by
  obtain ⟨b, bs, rfl⟩ := List.exists_cons_of_ne_nil h.ne_nil
  exact h.blanks.head? c hc

/-- What stands between two words is a gap. -/
theorem IsBlanks.isGap {before word rest : List Char} (h : IsBlanks before) (hword : IsWord word)
    (hstart : ∀ c ∈ (before ++ (word ++ rest)).head?, isBlank c = true) : IsGap before := by
  refine ⟨fun hnil => ?_, h⟩
  obtain ⟨c, cs, rfl⟩ := List.exists_cons_of_ne_nil hword.ne_nil
  have hblank := hstart c (by rw [hnil]; rfl)
  rw [hword.nonblank c List.mem_cons_self] at hblank
  cases hblank

/-- The words of a text are three if and only if it is made of them and of blanks. -/
theorem wordRuns_eq_three_iff {cs first second third : List Char} :
    wordRuns cs = [first, second, third] ↔ IsThreeWords cs first second third := by
  constructor
  · intro h
    obtain ⟨before, rest, rfl, hbefore, hfirst, hrest, h⟩ := wordRuns_eq_cons_iff.mp h
    obtain ⟨gap, rest', rfl, hgap, hsecond, hrest', h⟩ := wordRuns_eq_cons_iff.mp h
    obtain ⟨gap', after, rfl, hgap', hthird, -, h⟩ := wordRuns_eq_cons_iff.mp h
    exact ⟨⟨before, gap, gap', after, rfl, hbefore, hgap.isGap hsecond hrest,
      hgap'.isGap hthird hrest', wordRuns_eq_nil_iff.mp h⟩, hfirst, hsecond, hthird⟩
  · rintro ⟨⟨before, gap, gap', after, rfl, hbefore, hgap, hgap', hafter⟩, hfirst, hsecond, hthird⟩
    rw [wordRuns_append_of_isBlanks hbefore, hfirst.wordRuns_append (hgap.head?_append _),
      wordRuns_append_of_isBlanks hgap.blanks, hsecond.wordRuns_append (hgap'.head?_append _),
      wordRuns_append_of_isBlanks hgap'.blanks, hthird.wordRuns_append hafter.head?,
      wordRuns_of_isBlanks hafter]

end PolySql.Text

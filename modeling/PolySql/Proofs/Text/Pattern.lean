import PolySql.Text.Pattern

/-!
# What a pattern matches

`Pattern.Matches` says when a text matches a pattern, and with which captured runs: the text is cut
into runs, one that each step may take.  It does not say how long a run is where several cuts are
possible.  The search finds a match whenever there is one (`Pattern.exists_captures?`), and what it
finds is a match (`Pattern.matches_of_captures?`).  So it finds the only answer of a pattern whose
matches all capture the same (`Pattern.captures?_eq_some_iff`).
-/

namespace PolySql.Text

/-! ### Runs that a step may take -/

/-- Whether a step may take a number of characters of its class. -/
def Repetition.Admits : Repetition → Nat → Prop
  | .once, n => n = 1
  | .oneOrMore, n => 1 ≤ n
  | .any, _ => True

/-- Whether a step may take a run. -/
structure PatternStep.Takes (step : PatternStep) (run : List Char) : Prop where
  holds : ∀ c ∈ run, step.charClass.holds c = true
  admits : step.repetition.Admits run.length

theorem le_length_takeWhile_iff (p : Char → Bool) (cs : List Char) (n : Nat) :
    n ≤ (cs.takeWhile p).length ↔ n ≤ cs.length ∧ ∀ c ∈ cs.take n, p c = true := by
  induction cs generalizing n with
  | nil => simp
  | cons c cs ih =>
    cases n with
    | zero => simp
    | succ n =>
      by_cases hc : p c = true
      · simp [hc, ih]
      · simp [hc]

/-- A step tries exactly the numbers of characters that it may take. -/
theorem PatternStep.mem_lengths_iff {step : PatternStep} {cs : List Char} {n : Nat} :
    n ∈ step.lengths cs ↔ n ≤ cs.length ∧ step.Takes (cs.take n) := by
  have hlengths : n ∈ step.lengths cs ↔
      n ≤ (cs.takeWhile step.charClass.holds).length ∧ step.repetition.Admits n := by
    unfold lengths Repetition.Admits
    cases step.repetition with
    | once =>
      dsimp only
      split
      · simp only [List.not_mem_nil, false_iff]
        omega
      · simp only [List.mem_singleton]
        omega
    | oneOrMore =>
      simp only [List.mem_reverse, List.mem_range'_1]
      omega
    | any =>
      simp only [List.mem_reverse, List.mem_range, and_true]
      omega
  rw [hlengths, le_length_takeWhile_iff, and_assoc]
  refine and_congr_right fun hn => ?_
  constructor
  · rintro ⟨hholds, hadmits⟩
    exact ⟨hholds, by rwa [List.length_take_of_le hn]⟩
  · rintro ⟨hholds, hadmits⟩
    exact ⟨hholds, by rwa [List.length_take_of_le hn] at hadmits⟩

/-! ### Matches -/

namespace Pattern

/-- A text matches a pattern, with the given captured runs. -/
inductive Matches : Pattern → List Char → List (List Char) → Prop where
  | nil : Matches [] [] []
  | cons {step : PatternStep} {steps : Pattern} {run cs : List Char} {groups : List (List Char)}
      (hrun : step.Takes run) (h : Matches steps cs groups) :
      Matches (step :: steps) (run ++ cs) (step.kept run ++ groups)

theorem matches_nil_iff {cs : List Char} {groups : List (List Char)} :
    Matches [] cs groups ↔ cs = [] ∧ groups = [] := by
  constructor
  · intro h
    cases h
    exact ⟨rfl, rfl⟩
  · rintro ⟨rfl, rfl⟩
    exact .nil

theorem matches_cons_iff {step : PatternStep} {steps : Pattern} {cs : List Char}
    {groups : List (List Char)} :
    Matches (step :: steps) cs groups ↔
      ∃ run rest after, step.Takes run ∧ Matches steps rest after ∧
        cs = run ++ rest ∧ groups = step.kept run ++ after := by
  constructor
  · intro h
    cases h with
    | cons hrun h => exact ⟨_, _, _, hrun, h, rfl, rfl⟩
  · rintro ⟨run, rest, after, hrun, h, rfl, rfl⟩
    exact .cons hrun h

/-- What the search finds is a match. -/
theorem matches_of_captures? {p : Pattern} {cs : List Char} {groups : List (List Char)}
    (h : p.captures? cs = some groups) : p.Matches cs groups := by
  induction p generalizing cs groups with
  | nil =>
    cases cs with
    | nil => exact Option.some.inj h ▸ .nil
    | cons c cs => cases h
  | cons step steps ih =>
    rw [captures?] at h
    obtain ⟨n, hn, h⟩ := List.exists_of_findSome?_eq_some h
    obtain ⟨after, hafter, rfl⟩ := Option.map_eq_some_iff.mp h
    have hmatches := Matches.cons (PatternStep.mem_lengths_iff.mp hn).2 (ih hafter)
    rwa [List.take_append_drop] at hmatches

/-- The search finds something whenever there is a match. -/
theorem exists_captures? {p : Pattern} {cs : List Char} {groups : List (List Char)}
    (h : p.Matches cs groups) : ∃ found, p.captures? cs = some found := by
  rw [← Option.isSome_iff_exists]
  induction h with
  | nil => rfl
  | @cons step steps run cs groups hrun _ ih =>
    have hlength : run.length ∈ step.lengths (run ++ cs) := by
      rw [PatternStep.mem_lengths_iff, List.take_left]
      exact ⟨by simp, hrun⟩
    rw [captures?, List.findSome?_isSome_iff]
    exact ⟨run.length, hlength, by rwa [Option.isSome_map, List.drop_left]⟩

/-- Where all matches capture the same, the search finds just that. -/
theorem captures?_eq_some_iff {p : Pattern} {cs : List Char}
    (hsame : ∀ groups groups', p.Matches cs groups → p.Matches cs groups' → groups = groups')
    {groups : List (List Char)} : p.captures? cs = some groups ↔ p.Matches cs groups := by
  refine ⟨matches_of_captures?, fun h => ?_⟩
  obtain ⟨found, hfound⟩ := exists_captures? h
  rw [hfound, hsame found groups (matches_of_captures? hfound) h]

end Pattern

end PolySql.Text

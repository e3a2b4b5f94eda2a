import Mathlib.Tactic.Tauto
import PolySql.Proofs.Reading.Condition

/-!
# Alternatives and their conjuncts

What stands on one level of parentheses is read as a `Level`: its alternatives, between which `or`
stands, and the conjuncts of each, between which `and` stands.  `Reads t items L` says that items
are read as `L`, and it knows what becomes of items that are written one after the other: with `or`
between them all alternatives stay as they are (`Reads.or`), but with `and` between them only the
last alternative of the first and the first one of the second are joined (`Reads.and`).

Lexemes whose parentheses match are items of their own wherever they stand
(`exists_grouped_of_balanced`).
-/

namespace PolySql

/-! ### Levels -/

namespace Condition

variable {α β γ : Type}

/-- Any number of conditions joined by a word; of none at all, all hold and none does. -/
def joined (k : Connective) : List (Condition α) → Condition α
  | [] => .const (k.value [])
  | c :: cs => chain k c cs

theorem eval_joined (v : α → Bool) (k : Connective) (cs : List (Condition α)) :
    (joined k cs).eval v = k.value (cs.map (eval v)) := by
  cases cs with
  | nil => rfl
  | cons c cs => exact eval_chain v k c cs

theorem map_id (c : Condition α) : c.map id = c := by
  induction c with
  | const b => rfl
  | atom a => rfl
  | not c ih => rw [map, ih]
  | join k left right ihl ihr => rw [map, ihl, ihr]

theorem map_map (g : β → γ) (f : α → β) (c : Condition α) :
    (c.map f).map g = c.map fun a => g (f a) := by
  induction c with
  | const b => rfl
  | atom a => rfl
  | not c ih => rw [map, map, map, ih]
  | join k left right ihl ihr => rw [map, map, map, ihl, ihr]

theorem eval_map (v : β → Bool) (f : α → β) (c : Condition α) :
    (c.map f).eval v = c.eval fun a => v (f a) := by
  induction c with
  | const b => rfl
  | atom a => rfl
  | not c ih => rw [map, eval, eval, ih]
  | join k left right ihl ihr => rw [map, eval, eval, ihl, ihr]

end Condition

/-- What stands on one level of parentheses: its alternatives, each with its conjuncts. -/
abbrev Level (α : Type) := List (List (Condition α))

namespace Level

variable {α β γ : Type}

/-- Replace the atomic conditions. -/
def map (f : α → β) (L : Level α) : Level β :=
  List.map (List.map (Condition.map f)) L

/-- The condition that a level is. -/
def condition (L : Level α) : Condition α :=
  .joined .or (List.map (Condition.joined .and) L)

/-- Whether some alternative holds, with all its conjuncts. -/
def eval (v : α → Bool) (L : Level α) : Bool :=
  L.any fun alternative => alternative.all (Condition.eval v)

/-- Two levels with `and` between them: it joins the last alternative of the first one with the
first alternative of the second one. -/
def and : Level α → Level α → Level α
  | [], _ => []
  | [_], [] => []
  | [last], first :: M => (last ++ first) :: M
  | alternative :: next :: L, M => alternative :: and (next :: L) M

theorem map_id (L : Level α) : L.map id = L := by
  have hcondition : (Condition.map id : Condition α → Condition α) = id :=
    funext Condition.map_id
  rw [map, hcondition, List.map_id_fun, List.map_id]

theorem map_map (g : β → γ) (f : α → β) (L : Level α) :
    (L.map f).map g = L.map fun a => g (f a) := by
  rw [map, map, map, List.map_map]
  refine List.map_congr_left fun alternative _ => ?_
  rw [Function.comp_apply, List.map_map]
  exact List.map_congr_left fun c _ => Condition.map_map g f c

theorem eval_condition (v : α → Bool) (L : Level α) : L.condition.eval v = L.eval v := by
  rw [condition, Condition.eval_joined, Connective.value, List.map_map, List.any_map, eval]
  congr 1
  funext alternative
  rw [Function.comp_apply, Function.comp_apply, Condition.eval_joined, Connective.value,
    List.all_map]
  rfl

theorem eval_single (v : α → Bool) (c : Condition α) : eval v [[c]] = c.eval v := by
  rw [eval, List.any_cons, List.all_cons, List.all_nil, List.any_nil, Bool.and_true, Bool.or_false]

theorem eval_append (v : α → Bool) (L M : Level α) : eval v (L ++ M) = (L.eval v || M.eval v) :=
  List.any_append

theorem eval_map (v : β → Bool) (f : α → β) (L : Level α) :
    (L.map f).eval v = L.eval fun a => v (f a) := by
  rw [eval, map, List.any_map, eval]
  congr 1
  funext alternative
  rw [Function.comp_apply, List.all_map]
  congr 1
  funext c
  exact Condition.eval_map v f c

/-- `and` joins what stands on either side of it, and nothing else. -/
theorem and_append_cons (L : Level α) (last first : List (Condition α)) (M : Level α) :
    and (L ++ [last]) (first :: M) = L ++ (last ++ first) :: M := by
  induction L with
  | nil => rfl
  | cons alternative L ih =>
    cases L with
    | nil => rfl
    | cons next L =>
      rw [List.cons_append, List.cons_append, and, ← List.cons_append, ih]
      rfl

/-- What is left of `a or b` and `c or d` with `and` between them. -/
example (a b c d : Condition α) : and [[a], [b]] [[c], [d]] = [[a], [b, c], [d]] := rfl

theorem eval_and (v : α → Bool) (L : Level α) (last first : List (Condition α)) (M : Level α) :
    eval v (and (L ++ [last]) (first :: M)) =
      (L.eval v || last.all (Condition.eval v) && first.all (Condition.eval v) || M.eval v) := by
  rw [and_append_cons, eval_append, eval, eval, eval, List.any_cons, List.all_append, Bool.or_assoc]

theorem and_ne_nil {L M : Level α} (hL : L ≠ []) (hM : M ≠ []) : L.and M ≠ [] := by
  obtain ⟨first, M, rfl⟩ := List.exists_cons_of_ne_nil hM
  rw [← List.dropLast_append_getLast hL, and_append_cons]
  simp

theorem and_nil_conjuncts (L : Level α) : L.and [[]] = L := by
  by_cases h : L = []
  · rw [h, and]
  · have hlast := and_append_cons L.dropLast (L.getLast h) [] []
    rwa [List.append_nil, List.dropLast_append_getLast] at hlast

theorem nil_conjuncts_and (M : Level α) : and [[]] M = M := by
  cases M <;> rfl

theorem and_assoc (L : Level α) {M : Level α} (hM : M ≠ []) (N : Level α) :
    (L.and M).and N = L.and (M.and N) := by
  obtain ⟨first, M, rfl⟩ := List.exists_cons_of_ne_nil hM
  induction L with
  | nil => rfl
  | cons alternative L ih =>
    cases L with
    | nil =>
      cases M with
      | nil =>
        cases N with
        | nil => rfl
        | cons next N => simp [and]
      | cons next M => rfl
    | cons next L =>
      obtain ⟨head, tail, hcons⟩ :=
        List.exists_cons_of_ne_nil (and_ne_nil (L := next :: L) (by simp) hM)
      rw [and, hcons, and, ← hcons, ih, and]

/-! ### Values of joined levels -/

variable {v : α → Bool}

/-- Without other alternatives on either side, both sides have to hold. -/
theorem eval_and_of_length_eq_one {L M : Level α} (hL : L.length = 1) (hM : M.length = 1) :
    (L.and M).eval v = (L.eval v && M.eval v) := by
  obtain ⟨last, rfl⟩ := List.length_eq_one_iff.mp hL
  obtain ⟨first, rfl⟩ := List.length_eq_one_iff.mp hM
  simp [and, eval]

/-- Levels that both hold do so with `and` between them. -/
theorem eval_and_of_eval {L M : Level α} (hL : L.eval v) (hM : M.eval v) : (L.and M).eval v := by
  have hLne : L ≠ [] := by
    rintro rfl
    exact absurd hL (by simp [eval])
  cases M with
  | nil => exact absurd hM (by simp [eval])
  | cons first M =>
    rw [← List.dropLast_append_getLast hLne] at hL ⊢
    rw [eval_append] at hL
    rw [eval_and]
    simp only [eval, List.any_cons, List.any_nil, Bool.or_false, Bool.or_eq_true,
      Bool.and_eq_true] at hL hM ⊢
    tauto

/-- One alternative more on either side of an `and` can only be asked for. -/
theorem eval_and_of_eval_and_and {L N : Level α} (hL : L ≠ []) (hN : N ≠ [])
    {M : Level α} (hM : M.length = 1) (h : (L.and (M.and N)).eval v) : (L.and N).eval v := by
  obtain ⟨cs, rfl⟩ := List.length_eq_one_iff.mp hM
  obtain ⟨first, N, rfl⟩ := List.exists_cons_of_ne_nil hN
  rw [← List.dropLast_append_getLast hL] at h ⊢
  rw [and, eval_and, List.all_append] at h
  rw [eval_and]
  simp only [Bool.or_eq_true, Bool.and_eq_true] at h ⊢
  tauto

/-- An alternative behind the first one is all that has to hold. -/
theorem eval_and_of_mem_tail {L M : Level α} (hL : L ≠ []) {alternative : List (Condition α)}
    (hmem : alternative ∈ M.tail) (h : alternative.all (Condition.eval v)) :
    (L.and M).eval v := by
  cases M with
  | nil => exact absurd hmem List.not_mem_nil
  | cons first M =>
    have htail : eval v M = true := List.any_eq_true.mpr ⟨alternative, hmem, h⟩
    rw [← List.dropLast_append_getLast hL, eval_and, htail, Bool.or_true]

end Level

namespace Connective

variable {α : Type}

/-- The level of no levels at all: nothing has to hold, or nothing does. -/
def unit : Connective → Level α
  | .and => [[]]
  | .or => []

/-- Two levels with a word between them. -/
def joins : Connective → Level α → Level α → Level α
  | .and => Level.and
  | .or => List.append

/-- Any number of levels with a word between neighbours. -/
def joinLevels (k : Connective) (Ls : List (Level α)) : Level α :=
  Ls.foldr k.joins k.unit

theorem joins_unit (k : Connective) (L : Level α) : k.joins L k.unit = L := by
  cases k with
  | and => exact L.and_nil_conjuncts
  | or => exact List.append_nil L

theorem joinLevels_singleton (k : Connective) (L : Level α) : k.joinLevels [L] = L :=
  k.joins_unit L

theorem joinLevels_cons (k : Connective) (L : Level α) (Ls : List (Level α)) :
    k.joinLevels (L :: Ls) = k.joins L (k.joinLevels Ls) :=
  rfl

theorem joinLevels_and_ne_nil {Ls : List (Level α)} (h : ∀ L ∈ Ls, L ≠ []) :
    Connective.and.joinLevels Ls ≠ [] := by
  induction Ls with
  | nil => exact List.cons_ne_nil _ _
  | cons L Ls ih =>
    obtain ⟨hL, hLs⟩ := List.forall_mem_cons.mp h
    exact Level.and_ne_nil hL (ih hLs)

theorem joinLevels_and_append {Ls : List (Level α)} (h : ∀ L ∈ Ls, L ≠ [])
    (Ms : List (Level α)) :
    Connective.and.joinLevels (Ls ++ Ms) =
      (Connective.and.joinLevels Ls).and (Connective.and.joinLevels Ms) := by
  induction Ls with
  | nil => exact (Level.nil_conjuncts_and _).symm
  | cons L Ls ih =>
    obtain ⟨-, hLs⟩ := List.forall_mem_cons.mp h
    rw [List.cons_append, joinLevels_cons, ih hLs, joinLevels_cons]
    exact (L.and_assoc (joinLevels_and_ne_nil hLs) _).symm

/-- Only `and` asks that there are no other alternatives on either side. -/
theorem eval_joins {v : α → Bool} {k : Connective} {L M : Level α}
    (h : k = .and → L.length = 1 ∧ M.length = 1) :
    (k.joins L M).eval v = k.value [L.eval v, M.eval v] := by
  cases k with
  | and =>
    obtain ⟨hL, hM⟩ := h rfl
    simpa [joins, value] using Level.eval_and_of_length_eq_one hL hM
  | or => simpa [joins, value] using Level.eval_append v L M

/-- Levels that all hold do so with `and` between neighbours. -/
theorem eval_joinLevels_and_of_forall {v : α → Bool} {Ls : List (Level α)}
    (h : ∀ L ∈ Ls, L.eval v) : (Connective.and.joinLevels Ls).eval v := by
  induction Ls with
  | nil => rfl
  | cons L Ls ih =>
    obtain ⟨hL, hLs⟩ := List.forall_mem_cons.mp h
    exact Level.eval_and_of_eval hL (ih hLs)

theorem length_joinLevels_and {Ls : List (Level α)} (h : ∀ L ∈ Ls, L.length = 1) :
    (Connective.and.joinLevels Ls).length = 1 := by
  induction Ls with
  | nil => rfl
  | cons L Ls ih =>
    obtain ⟨hL, hLs⟩ := List.forall_mem_cons.mp h
    obtain ⟨last, rfl⟩ := List.length_eq_one_iff.mp hL
    obtain ⟨first, hfirst⟩ := List.length_eq_one_iff.mp (ih hLs)
    rw [joinLevels_cons, hfirst]
    rfl

/-- **Levels are joined as wholes** with `or` between them, and with `and` between them if there is
only one of them or none of them has more than one alternative. -/
theorem eval_joinLevels {v : α → Bool} {k : Connective} {Ls : List (Level α)}
    (h : k = .and → Ls.length ≤ 1 ∨ ∀ L ∈ Ls, L.length = 1) :
    (k.joinLevels Ls).eval v = k.value (Ls.map (Level.eval v)) := by
  induction Ls with
  | nil => cases k <;> rfl
  | cons L Ls ih =>
    cases Ls with
    | nil => rw [joinLevels_singleton, List.map_singleton, value_singleton]
    | cons M Ls =>
      have hone (hk : k = .and) : L.length = 1 ∧ ∀ L' ∈ M :: Ls, L'.length = 1 :=
        List.forall_mem_cons.mp ((h hk).resolve_left (by simp))
      have hboth (hk : k = .and) : L.length = 1 ∧ (k.joinLevels (M :: Ls)).length = 1 :=
        ⟨(hone hk).1, hk ▸ length_joinLevels_and (hone hk).2⟩
      rw [joinLevels_cons, eval_joins hboth, ih fun hk => .inr (hone hk).2, ← value_cons]
      rfl

end Connective

/-! ### Reading levels -/

/-- Items that are read as the given conjuncts. -/
inductive Conjuncts {α : Type} (t : α → List Lexeme) : List Item → List (Condition α) → Prop where
  | last {items : List Item} {c : Condition α} (h : Operand items (c.map t)) : Conjuncts t items [c]
  | cons {part rest : List Item} {i : Item} {c : Condition α} {cs : List (Condition α)}
      (h : Operand part (c.map t)) (hi : i.isKeyword Connective.and.word)
      (hrest : Conjuncts t rest cs) : Conjuncts t (part ++ i :: rest) (c :: cs)

/-- Items that are read as the given level. -/
inductive Reads {α : Type} (t : α → List Lexeme) : List Item → Level α → Prop where
  | last {items : List Item} {cs : List (Condition α)} (h : Conjuncts t items cs) :
      Reads t items [cs]
  | cons {part rest : List Item} {i : Item} {cs : List (Condition α)} {L : Level α}
      (h : Conjuncts t part cs) (hi : i.isKeyword Connective.or.word) (hrest : Reads t rest L) :
      Reads t (part ++ i :: rest) (cs :: L)

/-- A word that joins is not another one. -/
theorem Item.isKeyword_eq_false {i : Item} {k k' : Connective} (h : i.isKeyword k.word)
    (hk : k ≠ k') : i.isKeyword k'.word = false := by
  cases i with
  | group ls reading => rfl
  | leaf l =>
    cases l with
    | word s =>
      have hs : Text.lowerAscii s = k.word := by simpa [isKeyword, Lexeme.isKeyword] using h
      simp only [isKeyword, Lexeme.isKeyword, hs]
      cases k <;> cases k' <;> simp_all [Connective.word]
    | sign c => rfl
    | quoted s => rfl

theorem readJoined_append_cons {k : Connective}
    {read : List Item → Option (Condition (List Lexeme))} {part rest : List Item} {i : Item}
    {c c' : Condition (List Lexeme)} (hpart : ∀ j ∈ part, j.isKeyword k.word = false)
    (hi : i.isKeyword k.word) (hread : read part = some c)
    (hrest : readJoined k read rest = some c') :
    readJoined k read (part ++ i :: rest) = some (.join k c c') := by
  rw [readJoined, List.splitOnP_append_cons_of_forall_mem hpart i hi]
  rw [readJoined] at hrest
  cases hcut : rest.splitOnP (Item.isKeyword k.word) with
  | nil => exact absurd hcut (List.splitOnP_ne_nil _ _)
  | cons first others =>
    rw [hcut] at hrest
    rw [readParts, hread, hrest]
    · rfl
    · simp

section Reads

variable {α : Type} {t : α → List Lexeme} {items others : List Item}

namespace Conjuncts

variable {cs ds : List (Condition α)}

theorem ne_nil (h : Conjuncts t items cs) : cs ≠ [] := by
  cases h <;> simp

/-- Conjuncts have no `or` between them. -/
theorem isKeyword_or (h : Conjuncts t items cs) :
    ∀ i ∈ items, i.isKeyword Connective.or.word = false := by
  induction h with
  | last h => exact h.undivided .or
  | cons h hi _ ih =>
    intro j hj
    rcases List.mem_append.mp hj with hj | hj
    · exact h.undivided .or j hj
    · rcases List.mem_cons.mp hj with rfl | hj
      · exact Item.isKeyword_eq_false hi (by decide)
      · exact ih j hj

theorem readJoined_eq (h : Conjuncts t items cs) :
    readJoined .and readNot items = some ((Condition.joined .and cs).map t) := by
  induction h with
  | last h =>
    rw [readJoined_of_forall _ (h.undivided .and), h.reading]
    rfl
  | @cons part rest i c cs h hi hrest ih =>
    obtain ⟨c', cs, rfl⟩ := List.exists_cons_of_ne_nil hrest.ne_nil
    exact readJoined_append_cons (h.undivided .and) hi h.reading ih

theorem append (h : Conjuncts t items cs) {i : Item} (hi : i.isKeyword Connective.and.word)
    (h' : Conjuncts t others ds) : Conjuncts t (items ++ i :: others) (cs ++ ds) := by
  induction h with
  | last h => exact .cons h hi h'
  | cons h hj _ ih =>
    rw [List.append_assoc, List.cons_append]
    exact .cons h hj ih

end Conjuncts

namespace Reads

variable {L M : Level α}

theorem ne_nil (h : Reads t items L) : L ≠ [] := by
  cases h <;> simp

/-- Items that are read as a level are read as the condition that the level is. -/
theorem readItems_eq (h : Reads t items L) : readItems items = some (L.condition.map t) := by
  induction h with
  | last h =>
    rw [readItems, readJoined_of_forall _ h.isKeyword_or, h.readJoined_eq]
    rfl
  | @cons part rest i cs L h hi hrest ih =>
    obtain ⟨ds, L, rfl⟩ := List.exists_cons_of_ne_nil hrest.ne_nil
    exact readJoined_append_cons h.isKeyword_or hi h.readJoined_eq ih

/-- With `or` between them, two levels keep all their alternatives. -/
theorem or (h : Reads t items L) {i : Item} (hi : i.isKeyword Connective.or.word)
    (h' : Reads t others M) : Reads t (items ++ i :: others) (L ++ M) := by
  induction h with
  | last h => exact .cons h hi h'
  | cons h hj _ ih =>
    rw [List.append_assoc, List.cons_append]
    exact .cons h hj ih

/-- With `and` between them, two levels are joined at the alternatives next to it. -/
theorem and (h : Reads t items L) {i : Item} (hi : i.isKeyword Connective.and.word)
    (h' : Reads t others M) : Reads t (items ++ i :: others) (L.and M) := by
  induction h with
  | last h =>
    cases h' with
    | last h' => exact .last (h.append hi h')
    | cons h' hj hrest =>
      rw [← List.cons_append, ← List.append_assoc]
      exact .cons (h.append hi h') hj hrest
  | cons h hj hrest ih =>
    obtain ⟨next, L, rfl⟩ := List.exists_cons_of_ne_nil hrest.ne_nil
    rw [List.append_assoc, List.cons_append]
    exact .cons h hj ih

theorem joins (h : Reads t items L) {k : Connective} {i : Item} (hi : i.isKeyword k.word)
    (h' : Reads t others M) : Reads t (items ++ i :: others) (k.joins L M) := by
  cases k with
  | and => exact h.and hi h'
  | or => exact h.or hi h'

/-- What means one condition is a level of its own. -/
theorem of_operand {c : Condition α} (h : Operand items (c.map t)) : Reads t items [[c]] :=
  .last (.last h)

/-- What stands between parentheses means the condition that its level is. -/
theorem group {ls : List Lexeme} (h : Reads t items L) :
    Reads t [.group ls (readItems items)] [[L.condition]] :=
  of_operand (.group h.readItems_eq)

end Reads

end Reads

/-- Read items as a level, by cutting them at every `or` and what is left at every `and`. -/
def readLevel (items : List Item) : Option (Level (List Lexeme)) :=
  (items.splitOnP (Item.isKeyword Connective.or.word)).mapM fun part =>
    (part.splitOnP (Item.isKeyword Connective.and.word)).mapM readNot

/-- What a list cut at some elements has, if lists without such elements do and it goes over to a
list with one more of them in front. -/
theorem splitOnP_induction {α : Type} {p : α → Bool} {motive : List α → List (List α) → Prop}
    (last : ∀ xs, (∀ x ∈ xs, p x = false) → motive xs [xs])
    (cons : ∀ part x rest, (∀ y ∈ part, p y = false) → p x → motive rest (rest.splitOnP p) →
      motive (part ++ x :: rest) (part :: rest.splitOnP p))
    (xs : List α) : motive xs (xs.splitOnP p) := by
  induction hn : xs.length using Nat.strong_induction_on generalizing xs with
  | _ n ih =>
    cases hfind : xs.find? p with
    | none =>
      have hnone : ∀ x ∈ xs, p x = false := by simpa using hfind
      rw [List.splitOnP_eq_singleton hnone]
      exact last xs hnone
    | some x =>
      obtain ⟨hx, part, rest, rfl, hpart⟩ := List.find?_eq_some_iff_append.mp hfind
      have hpart' : ∀ y ∈ part, p y = false := by simpa using hpart
      have hshorter : rest.length < n := by
        rw [← hn, List.length_append, List.length_cons]
        omega
      rw [List.splitOnP_append_cons_of_forall_mem hpart' x hx]
      exact cons part x rest hpart' hx (ih _ hshorter rest rfl)

theorem mapM_eq_some_iff {α β : Type} {f : α → Option β} {xs : List α} {ys : List β} :
    xs.mapM f = some ys ↔ List.Forall₂ (fun x y => f x = some y) xs ys := by
  induction xs generalizing ys with
  | nil => cases ys <;> simp
  | cons x xs ih =>
    rw [List.mapM_cons]
    cases hx : f x with
    | none => cases ys <;> simp [hx]
    | some y =>
      cases hxs : xs.mapM f with
      | none =>
        cases ys with
        | nil => simp
        | cons y' ys =>
          rw [List.forall₂_cons, ← ih]
          simp [hxs]
      | some ys' =>
        cases ys with
        | nil => simp
        | cons y'' ys =>
          rw [List.forall₂_cons, ← ih, hx, hxs]
          simp

section ReadLevel

variable {α : Type} {t : α → List Lexeme} {items : List Item}

theorem conjuncts_of_forall₂ {cs : List (Condition α)}
    (hor : ∀ i ∈ items, i.isKeyword Connective.or.word = false)
    (h : List.Forall₂ (fun part c => readNot part = some (Condition.map t c))
      (items.splitOnP (Item.isKeyword Connective.and.word)) cs) : Conjuncts t items cs := by
  have hundivided (part : List Item) (hor : ∀ i ∈ part, i.isKeyword Connective.or.word = false)
      (hand : ∀ i ∈ part, i.isKeyword Connective.and.word = false) : Undivided part := by
    intro k
    cases k with
    | and => exact hand
    | or => exact hor
  refine splitOnP_induction (motive := fun items parts =>
    (∀ i ∈ items, i.isKeyword Connective.or.word = false) →
      ∀ cs, List.Forall₂ (fun part c => readNot part = some (Condition.map t c)) parts cs →
        Conjuncts t items cs) ?_ ?_ items hor cs h
  · intro items hand hor cs h
    obtain ⟨c, rfl⟩ := List.length_eq_one_iff.mp h.length_eq.symm
    exact .last ⟨hundivided items hor hand, (List.forall₂_cons.mp h).1⟩
  · intro part i rest hand hi ih hor cs h
    obtain ⟨hpart, hrest⟩ := List.forall_mem_append.mp hor
    cases h with
    | cons hc hcs =>
      refine .cons ⟨hundivided part hpart hand, hc⟩ hi (ih ?_ _ hcs)
      exact fun j hj => hrest j (List.mem_cons_of_mem i hj)

/-- What can be read as a level is read as it. -/
theorem reads_of_readLevel {L : Level α} (h : readLevel items = some (L.map t)) :
    Reads t items L := by
  have hparts := mapM_eq_some_iff.mp h
  rw [Level.map, List.forall₂_map_right_iff] at hparts
  refine splitOnP_induction (motive := fun items parts =>
    ∀ L : Level α, List.Forall₂ (fun part alternative =>
      (part.splitOnP (Item.isKeyword Connective.and.word)).mapM readNot =
        some (List.map (Condition.map t) alternative)) parts L → Reads t items L)
    ?_ ?_ items L hparts
  · intro items hor L h
    obtain ⟨cs, rfl⟩ := List.length_eq_one_iff.mp h.length_eq.symm
    have hcs := mapM_eq_some_iff.mp (List.forall₂_cons.mp h).1
    rw [List.forall₂_map_right_iff] at hcs
    exact .last (conjuncts_of_forall₂ hor hcs)
  · intro part i rest hor hi ih L h
    cases h with
    | cons hc hL =>
      have hcs := mapM_eq_some_iff.mp hc
      rw [List.forall₂_map_right_iff] at hcs
      exact .cons (conjuncts_of_forall₂ hor hcs) hi (ih _ hL)

end ReadLevel

/-! ### Parentheses in pairs -/

theorem balanced_append {ls : List Lexeme} {m : Nat} (h : balanced m ls) (n : Nat)
    (ms : List Lexeme) : balanced (m + n) (ls ++ ms) = balanced n ms := by
  induction ls generalizing m with
  | nil =>
    obtain rfl : m = 0 := by simpa [balanced] using h
    simp
  | cons l ls ih =>
    rw [balanced] at h
    rw [List.cons_append, balanced]
    split_ifs at h ⊢ with hopen hclose
    · rw [← ih h, Nat.add_right_comm]
    · rw [Bool.and_eq_true, decide_eq_true_iff] at h
      have hdepth : m + n - 1 = m - 1 + n := by omega
      rw [hdepth, ih h.2, decide_eq_true (by omega), Bool.true_and]
    · exact ih h

/-- Lexemes in pairs may stand anywhere. -/
theorem balanced_insert {ms : List Lexeme} (h : balanced 0 ms) (n : Nat) (ls ns : List Lexeme) :
    balanced n (ls ++ ms ++ ns) = balanced n (ls ++ ns) := by
  induction ls generalizing n with
  | nil =>
    have hms := balanced_append h n ns
    rwa [Nat.zero_add] at hms
  | cons l ls ih =>
    rw [List.cons_append, List.cons_append, List.cons_append, balanced, balanced, ih, ih, ih]

/-- An open parenthesis is closed, and what stands before that is in pairs. -/
theorem exists_closing {n : Nat} {ls : List Lexeme} (h : balanced (n + 1) ls) :
    ∃ inner rest items, ls = inner ++ .sign ')' :: rest ∧ Grouped inner items ∧
      balanced n rest := by
  induction hlength : ls.length using Nat.strong_induction_on generalizing n ls with
  | _ len ih =>
    cases ls with
    | nil => simp [balanced] at h
    | cons l ls =>
      rw [List.length_cons] at hlength
      rw [balanced] at h
      split_ifs at h with hopen hclose
      · -- what this one opens is closed first, and what it was opened in after that
        subst hopen
        obtain ⟨first, others, items, rfl, hfirst, hothers⟩ := ih ls.length (by omega) h rfl
        rw [List.length_append, List.length_cons] at hlength
        obtain ⟨second, rest, items', rfl, hsecond, hrest⟩ :=
          ih others.length (by omega) hothers rfl
        exact ⟨(.sign '(' :: first ++ [.sign ')']) ++ second, rest, _, by simp,
          hfirst.parens.append hsecond, hrest⟩
      · subst hclose
        exact ⟨[], ls, [], rfl, .nil, by simpa using h⟩
      · obtain ⟨inner, rest, items, rfl, hinner, hrest⟩ := ih ls.length (by omega) h rfl
        exact ⟨l :: inner, rest, _, rfl, (Grouped.leaf hopen hclose).append hinner, hrest⟩

/-- Lexemes in pairs are items of their own. -/
theorem exists_grouped_of_balanced {ls : List Lexeme} (h : balanced 0 ls) :
    ∃ items, Grouped ls items := by
  induction hlength : ls.length using Nat.strong_induction_on generalizing ls with
  | _ len ih =>
    cases ls with
    | nil => exact ⟨[], .nil⟩
    | cons l ls =>
      rw [List.length_cons] at hlength
      rw [balanced] at h
      split_ifs at h with hopen hclose
      · subst hopen
        obtain ⟨inner, rest, items, rfl, hinner, hrest⟩ := exists_closing h
        rw [List.length_append, List.length_cons] at hlength
        obtain ⟨items', hitems'⟩ := ih rest.length (by omega) hrest rfl
        have hgroup := hinner.parens.append hitems'
        rw [List.append_assoc] at hgroup
        exact ⟨_, hgroup⟩
      · simp at h
      · obtain ⟨items, hitems⟩ := ih ls.length (by omega) h rfl
        exact ⟨_, (Grouped.leaf hopen hclose).append hitems⟩

theorem Grouped.balanced {ls : List Lexeme} {items : List Item} (h : Grouped ls items) :
    balanced 0 ls :=
  balanced_of_nest h.nest_eq

/-- Lexemes that can be nested by themselves are the same items wherever they stand. -/
theorem grouped_of_nest {ls : List Lexeme} {items : List Item} (h : nest [] [] ls = some items) :
    Grouped ls items := by
  obtain ⟨items', hitems⟩ := exists_grouped_of_balanced (balanced_of_nest h)
  obtain rfl := Option.some.inj (h.symm.trans hitems.nest_eq)
  exact hitems

end PolySql

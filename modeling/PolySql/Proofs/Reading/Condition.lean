import PolySql.Proofs.Reading.Lexeme

/-!
# Reading a condition by precedence

`nest` puts the lexemes between two parentheses together as one item, from the inside out, and fails
where parentheses do not match (`balanced_of_nest`).  `readItems` reads what is then left on one
level: `not` binds tighter than `and`, and `and` tighter than `or`.  Items without any of the three
words are one atomic condition, which is kept as its lexemes; a comparison of two numerals is
decided.

`Grouped ls items` says that `nest` makes these items of these lexemes wherever they stand.
-/

namespace PolySql

/-! ### Conditions -/

/-- A word that joins conditions. -/
inductive Connective where
  | and
  | or
  deriving DecidableEq, Repr

namespace Connective

/-- The word itself. -/
def word : Connective → String
  | .and => "and"
  | .or => "or"

/-- The value of joined conditions: whether all of them hold, or any of them. -/
def value : Connective → List Bool → Bool
  | .and, bs => bs.all id
  | .or, bs => bs.any id

@[simp] theorem value_singleton (k : Connective) (b : Bool) : k.value [b] = b := by
  cases k <;> simp [value]

theorem value_cons (k : Connective) (b : Bool) (bs : List Bool) :
    k.value (b :: bs) = k.value [b, k.value bs] := by
  cases k <;> simp [value]

end Connective

/-- A condition on atomic conditions. -/
inductive Condition (α : Type) where
  | const (b : Bool)
  | atom (a : α)
  | not (c : Condition α)
  | join (k : Connective) (left right : Condition α)
  deriving DecidableEq, Repr

namespace Condition

variable {α β : Type}

/-- Replace the atomic conditions. -/
def map (f : α → β) : Condition α → Condition β
  | .const b => .const b
  | .atom a => .atom (f a)
  | .not c => .not (c.map f)
  | .join k left right => .join k (left.map f) (right.map f)

/-- The atomic conditions, from left to right. -/
def atoms : Condition α → List α
  | .const _ => []
  | .atom a => [a]
  | .not c => c.atoms
  | .join _ left right => left.atoms ++ right.atoms

/-- The value of a condition where its atomic conditions have the given values. -/
def eval (v : α → Bool) : Condition α → Bool
  | .const b => b
  | .atom a => v a
  | .not c => ! c.eval v
  | .join k left right => k.value [left.eval v, right.eval v]

/-- Conditions joined by a word. -/
def chain (k : Connective) (c : Condition α) : List (Condition α) → Condition α
  | [] => c
  | next :: cs => .join k c (chain k next cs)

theorem map_chain (f : α → β) (k : Connective) (c : Condition α) (cs : List (Condition α)) :
    (chain k c cs).map f = chain k (c.map f) (cs.map (map f)) := by
  induction cs generalizing c with
  | nil => rfl
  | cons next cs ih => rw [chain, map, ih, List.map_cons, chain]

theorem atoms_chain (k : Connective) (c : Condition α) (cs : List (Condition α)) :
    (chain k c cs).atoms = (c :: cs).flatMap atoms := by
  induction cs generalizing c with
  | nil => simp [chain]
  | cons next cs ih =>
    rw [chain, atoms, ih]
    rfl

/-- A chain has the value of all its parts together. -/
theorem eval_chain (v : α → Bool) (k : Connective) (c : Condition α) (cs : List (Condition α)) :
    (chain k c cs).eval v = k.value ((c :: cs).map (eval v)) := by
  induction cs generalizing c with
  | nil => simp [chain]
  | cons next cs ih =>
    rw [chain, eval, ih, ← Connective.value_cons]
    rfl

end Condition

/-! ### Items -/

/-- A lexeme, or all that stands between two parentheses, with what it means as a condition. -/
inductive Item where
  | leaf (l : Lexeme)
  | group (ls : List Lexeme) (reading : Option (Condition (List Lexeme)))

namespace Item

/-- The lexemes of an item. -/
def lexemes : Item → List Lexeme
  | .leaf l => [l]
  | .group ls _ => .sign '(' :: ls ++ [.sign ')']

/-- Whether an item is a word of the language; what stands between parentheses never is. -/
def isKeyword (keyword : String) : Item → Bool
  | .leaf l => l.isKeyword keyword
  | .group _ _ => false

end Item

/-! ### Reading one level -/

/-- The number that a word is, if it is one. -/
def numeral? (s : String) : Option Nat :=
  if s.toList.all Char.isDigit && !s.toList.isEmpty then
    some (s.toList.foldl (fun n c => 10 * n + (c.toNat - '0'.toNat)) 0)
  else none

/-- Read items without words that join or negate. -/
def readAtom : List Item → Condition (List Lexeme)
  | [.leaf (.word a), .leaf (.word "="), .leaf (.word b)] =>
    match numeral? a, numeral? b with
    | some m, some n => .const (m == n)
    | _, _ => .atom [.word a, .word "=", .word b]
  | items => .atom (items.flatMap Item.lexemes)

/-- Read items without words that join. -/
def readNot : List Item → Option (Condition (List Lexeme))
  | [] => none
  | [.group _ reading] => reading
  | .leaf l :: items =>
    if l.isKeyword "not" then (readNot items).map .not else some (readAtom (.leaf l :: items))
  | items => some (readAtom items)

/-- Read parts that a word joins, each of them by the given reader. -/
def readParts (k : Connective) (read : List Item → Option (Condition (List Lexeme))) :
    List (List Item) → Option (Condition (List Lexeme))
  | [] => none
  | [part] => read part
  | part :: parts =>
    (read part).bind fun c => (readParts k read parts).map (.join k c)

/-- Read items by cutting them at a word that joins. -/
def readJoined (k : Connective) (read : List Item → Option (Condition (List Lexeme)))
    (items : List Item) : Option (Condition (List Lexeme)) :=
  readParts k read (items.splitOnP (Item.isKeyword k.word))

/-- Read the items of one level: `or` binds least and `not` most. -/
def readItems : List Item → Option (Condition (List Lexeme)) :=
  readJoined .or (readJoined .and readNot)

/-! ### Parentheses -/

/-- Put the items of a level together behind those of the nearest level around it. -/
def closeLevel (items : List Item) : List (List Item) → Option (List Item × List (List Item))
  | [] => none
  | around :: outer =>
    some (around ++ [.group (items.flatMap Item.lexemes) (readItems items)], outer)

/-- The items of lexemes, behind the items of this level and those of the levels around it, the
nearest one first. -/
def nest (items : List Item) (outer : List (List Item)) : List Lexeme → Option (List Item)
  | [] => if outer.isEmpty then some items else none
  | l :: ls =>
    if l = .sign '(' then nest [] (items :: outer) ls
    else if l = .sign ')' then
      (closeLevel items outer).bind fun (items, outer) => nest items outer ls
    else nest (items ++ [.leaf l]) outer ls

/-- Whether every parenthesis has its partner, behind so many open ones. -/
def balanced : Nat → List Lexeme → Bool
  | depth, [] => depth == 0
  | depth, l :: ls =>
    if l = .sign '(' then balanced (depth + 1) ls
    else if l = .sign ')' then 0 < depth && balanced (depth - 1) ls
    else balanced depth ls

/-- Only lexemes whose parentheses match can be read. -/
theorem balanced_of_nest {items read : List Item} {outer : List (List Item)} {ls : List Lexeme}
    (h : nest items outer ls = some read) : balanced outer.length ls := by
  induction ls generalizing items outer with
  | nil =>
    cases outer with
    | nil => rfl
    | cons around outer => simp [nest] at h
  | cons l ls ih =>
    rw [nest] at h
    rw [balanced]
    split_ifs at h ⊢ with hopen hclose
    · exact ih h
    · cases outer with
      | nil => simp [closeLevel] at h
      | cons around outer => simpa using ih h
    · exact ih h

/-- Read a clause of conditions; there may be none. -/
def readWhere : List Lexeme → Option (Condition (List Lexeme))
  | [] => some (.const true)
  | l :: ls => if l.isKeyword "where" then (nest [] [] ls).bind readItems else none

/-! ### Lexemes that are items of their own -/

/-- Lexemes of which `nest` makes these items, wherever they stand. -/
structure Grouped (ls : List Lexeme) (items : List Item) : Prop where
  nest_append : ∀ around outer rest,
    nest around outer (ls ++ rest) = nest (around ++ items) outer rest
  lexemes_items : items.flatMap Item.lexemes = ls

/-- Lexemes among which there are no parentheses. -/
def ParenFree (ls : List Lexeme) : Prop :=
  ∀ l ∈ ls, l ≠ .sign '(' ∧ l ≠ .sign ')'

instance (ls : List Lexeme) : Decidable (ParenFree ls) :=
  inferInstanceAs (Decidable (∀ l ∈ ls, l ≠ .sign '(' ∧ l ≠ .sign ')'))

namespace Grouped

variable {ls ms : List Lexeme} {items others : List Item}

theorem nil : Grouped [] [] where
  nest_append := by simp
  lexemes_items := rfl

theorem append (hl : Grouped ls items) (hm : Grouped ms others) :
    Grouped (ls ++ ms) (items ++ others) where
  nest_append around outer rest := by
    rw [List.append_assoc, hl.nest_append, hm.nest_append, List.append_assoc]
  lexemes_items := by rw [List.flatMap_append, hl.lexemes_items, hm.lexemes_items]

theorem leaf {l : Lexeme} (hopen : l ≠ .sign '(') (hclose : l ≠ .sign ')') :
    Grouped [l] [.leaf l] where
  nest_append around outer rest := by
    rw [List.singleton_append, nest, if_neg hopen, if_neg hclose]
  lexemes_items := rfl

theorem leaves (h : ParenFree ls) : Grouped ls (ls.map .leaf) := by
  induction ls with
  | nil => exact nil
  | cons l ls ih =>
    obtain ⟨⟨hopen, hclose⟩, htail⟩ := List.forall_mem_cons.mp h
    exact (leaf hopen hclose).append (ih htail)

/-- What stands between parentheses is one item, and is read on its own. -/
theorem parens (h : Grouped ls items) :
    Grouped (.sign '(' :: ls ++ [.sign ')']) [.group ls (readItems items)] where
  nest_append around outer rest := by
    -- the items of the inner level are those of `ls`, and `)` makes one item of them
    have hinner : nest [] (around :: outer) (ls ++ .sign ')' :: rest) =
        nest items (around :: outer) (.sign ')' :: rest) := h.nest_append [] _ _
    have hclose : nest items (around :: outer) (.sign ')' :: rest) =
        nest (around ++ [.group ls (readItems items)]) outer rest := by
      rw [nest, if_neg (by decide), if_pos rfl, closeLevel, h.lexemes_items]
      rfl
    rw [List.cons_append, List.cons_append, List.append_assoc, nest, if_pos rfl,
      List.singleton_append, hinner, hclose]
  lexemes_items := by simp [Item.lexemes]

/-- Grouped lexemes are read as they stand alone. -/
theorem nest_eq (h : Grouped ls items) : nest [] [] ls = some items := by
  have hnest := h.nest_append [] [] []
  rwa [List.append_nil] at hnest

end Grouped

/-! ### Joining items -/

/-- Items none of which is a word that joins. -/
def Undivided (items : List Item) : Prop :=
  ∀ k : Connective, ∀ i ∈ items, i.isKeyword k.word = false

/-- The items of a word that joins. -/
def Connective.item (k : Connective) : Item :=
  .leaf (.word k.word)

theorem Connective.isKeyword_item (k k' : Connective) :
    k.item.isKeyword k'.word = decide (k = k') := by
  cases k <;> cases k' <;> rfl

/-- Items that mean a condition on either side of a word that joins. -/
structure Operand (items : List Item) (c : Condition (List Lexeme)) : Prop where
  undivided : Undivided items
  reading : readNot items = some c

namespace Operand

variable {items : List Item} {c : Condition (List Lexeme)}

/-- Parentheses mean what stands between them. -/
theorem group {ls : List Lexeme} (h : readItems items = some c) :
    Operand [.group ls (readItems items)] c where
  undivided := by simp [Undivided, Item.isKeyword]
  reading := h

theorem not (h : Operand items c) : Operand (.leaf (.word "not") :: items) (.not c) where
  undivided k := by
    refine List.forall_mem_cons.mpr ⟨?_, h.undivided k⟩
    cases k <;> rfl
  reading := by
    have hnot : (Lexeme.word "not").isKeyword "not" = true := by decide
    rw [readNot, if_pos hnot, h.reading, Option.map_some]

/-- What starts with a name is an atomic condition. -/
theorem atom {l : Lexeme} (hl : ∀ s, l ≠ .word s) (h : Undivided items) :
    Operand (.leaf l :: items) (.atom ((Item.leaf l :: items).flatMap Item.lexemes)) where
  undivided k := by
    refine List.forall_mem_cons.mpr ⟨?_, h k⟩
    cases l with
    | word s => exact absurd rfl (hl s)
    | sign c => rfl
    | quoted s => rfl
  reading := by
    have hnot : ¬ l.isKeyword "not" := by
      cases l with
      | word s => exact absurd rfl (hl s)
      | sign c => simp [Lexeme.isKeyword]
      | quoted s => simp [Lexeme.isKeyword]
    rw [readNot, if_neg hnot, readAtom]
    intro a b
    simp [hl]

end Operand

/-- Items that a word does not divide are read as a whole. -/
theorem readJoined_of_forall {k : Connective} {items : List Item}
    (read : List Item → Option (Condition (List Lexeme)))
    (h : ∀ i ∈ items, i.isKeyword k.word = false) : readJoined k read items = read items := by
  rw [readJoined, List.splitOnP_eq_singleton h, readParts]

theorem Operand.readItems_eq {items : List Item} {c : Condition (List Lexeme)}
    (h : Operand items c) : readItems items = some c := by
  rw [readItems, readJoined_of_forall _ (h.undivided .or),
    readJoined_of_forall _ (h.undivided .and), h.reading]

/-- Operands with a word between neighbours have no other word that joins. -/
theorem Operand.isKeyword_intercalate {k k' : Connective} (hk : k ≠ k') {part : List Item}
    {parts : List (List Item)} {c : Condition (List Lexeme)} {cs : List (Condition (List Lexeme))}
    (hpart : Operand part c) (hparts : List.Forall₂ Operand parts cs) :
    ∀ i ∈ List.intercalate [k.item] (part :: parts), i.isKeyword k'.word = false := by
  induction hparts generalizing part c with
  | nil =>
    rw [List.intercalate_singleton]
    exact hpart.undivided k'
  | cons hnext hparts ih =>
    intro i hi
    rw [List.intercalate_cons_cons, List.append_assoc, List.mem_append, List.singleton_append,
      List.mem_cons] at hi
    rcases hi with hi | rfl | hi
    · exact hpart.undivided k' i hi
    · simpa [Connective.isKeyword_item] using hk
    · exact ih hnext i hi

/-- Operands with a word between neighbours are cut there again. -/
theorem readJoined_intercalate {k : Connective}
    {read : List Item → Option (Condition (List Lexeme))}
    (hread : ∀ items c, Operand items c → read items = some c) {part : List Item}
    {parts : List (List Item)} {c : Condition (List Lexeme)} {cs : List (Condition (List Lexeme))}
    (hpart : Operand part c) (hparts : List.Forall₂ Operand parts cs) :
    readJoined k read (List.intercalate [k.item] (part :: parts)) = some (.chain k c cs) := by
  induction hparts generalizing part c with
  | nil =>
    rw [List.intercalate_singleton, readJoined_of_forall read (hpart.undivided k),
      hread part c hpart, Condition.chain]
  | @cons next c' parts cs hnext hparts ih =>
    have hword : k.item.isKeyword k.word = true := by simp [Connective.isKeyword_item]
    have hsplit : (List.intercalate [k.item] (part :: next :: parts)).splitOnP
          (Item.isKeyword k.word) =
        part :: (List.intercalate [k.item] (next :: parts)).splitOnP (Item.isKeyword k.word) := by
      rw [List.intercalate_cons_cons, List.append_assoc, List.singleton_append]
      exact List.splitOnP_append_cons_of_forall_mem (hpart.undivided k) k.item hword _
    -- the first operand is cut off, and the others are read as a chain of their own
    have hrest := ih hnext
    rw [readJoined] at hrest
    rw [readJoined, hsplit]
    cases hcut : (List.intercalate [k.item] (next :: parts)).splitOnP (Item.isKeyword k.word) with
    | nil => exact absurd hcut (List.splitOnP_ne_nil _ _)
    | cons first others =>
      rw [hcut] at hrest
      rw [readParts, hread part c hpart, hrest]
      · rfl
      · simp

/-- Operands with the same word between neighbours are read as the chain of them. -/
theorem readItems_intercalate (k : Connective) {part : List Item} {parts : List (List Item)}
    {c : Condition (List Lexeme)} {cs : List (Condition (List Lexeme))} (hpart : Operand part c)
    (hparts : List.Forall₂ Operand parts cs) :
    readItems (List.intercalate [k.item] (part :: parts)) = some (.chain k c cs) := by
  cases k with
  | and =>
    have hor : ∀ i ∈ List.intercalate [Connective.and.item] (part :: parts),
        i.isKeyword Connective.or.word = false :=
      Operand.isKeyword_intercalate (by decide) hpart hparts
    rw [readItems, readJoined_of_forall _ hor]
    exact readJoined_intercalate (fun items c h => h.reading) hpart hparts
  | or =>
    -- The operands have no `and` to cut at, so each of them is read as a whole.
    refine readJoined_intercalate (fun items c h => ?_) hpart hparts
    rw [readJoined_of_forall readNot (h.undivided .and), h.reading]

end PolySql

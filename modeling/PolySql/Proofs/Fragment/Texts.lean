import Mathlib.Data.List.Forall2
import PolySql.Fragment.Basic
import PolySql.Proofs.Identifier

/-!
# The texts of a fragment

A finished text is the texts of its pieces one after the other, and two sequences of pieces may well
make the same text.  Where the texts of one sequence are, one by one, at most as long as those of
the other, they do so only if all of them are the same (`eq_of_flatten_eq`).  So a fragment is
written alike with and without quotes only if quotes make no difference to any of its names
(`Fragment.neutral_eq_iff`).
-/

namespace PolySql

/-! ### Texts one after the other -/

section Flatten

variable {α : Type} {ls ms : List (List α)}

theorem length_flatten_le (h : List.Forall₂ (fun l m => l.length ≤ m.length) ls ms) :
    ls.flatten.length ≤ ms.flatten.length := by
  induction h with
  | nil => exact Nat.le_refl _
  | cons hhead _ ih =>
    rw [List.flatten_cons, List.flatten_cons, List.length_append, List.length_append]
    omega

/-- Texts that are, one by one, at most as long as others, and that make the same text with each
other, are these others. -/
theorem eq_of_flatten_eq (h : List.Forall₂ (fun l m => l.length ≤ m.length) ls ms)
    (heq : ls.flatten = ms.flatten) : ls = ms := by
  induction h with
  | nil => rfl
  | @cons l m ls ms hhead htail ih =>
    rw [List.flatten_cons, List.flatten_cons] at heq
    have hlength := congrArg List.length heq
    rw [List.length_append, List.length_append] at hlength
    have hrest := length_flatten_le htail
    obtain ⟨hlm, hflatten⟩ := List.append_inj heq (by omega)
    rw [hlm, ih hflatten]

end Flatten

namespace Fragment

/-! ### Quotes -/

/-- The texts of the pieces of a fragment. -/
def texts (w : Writer) (f : Fragment) : List (List Char) :=
  f.map fun p => (p.neutral w).toList

theorem toList_neutral (w : Writer) (f : Fragment) :
    (f.neutral w).toList = (f.texts w).flatten := by
  rw [neutral, String.toList_ofList, texts, List.flatMap_def]

theorem neutral_inj_of_length_le {w v : Writer} {f g : Fragment}
    (h : List.Forall₂ (fun l m => l.length ≤ m.length) (f.texts w) (g.texts v)) :
    f.neutral w = g.neutral v ↔ f.texts w = g.texts v := by
  rw [← String.toList_inj, toList_neutral, toList_neutral]
  exact ⟨eq_of_flatten_eq h, fun htexts => by rw [htexts]⟩

/-- The quotes of the names are all that the setting decides. -/
theorem texts_unquoted_le (d : Dialect) (f : Fragment) :
    List.Forall₂ (fun l m => l.length ≤ m.length)
      (f.texts { dialect := d, quoting := false }) (f.texts { dialect := d, quoting := true }) := by
  induction f with
  | nil => exact .nil
  | cons p f ih =>
    refine .cons ?_ ih
    cases p with
    | ident name => exact d.length_le_length_quote name
    | _ => exact Nat.le_refl _

theorem texts_unquoted_eq_iff (d : Dialect) (f : Fragment) :
    f.texts { dialect := d, quoting := false } = f.texts { dialect := d, quoting := true } ↔
      ∀ name, .ident name ∈ f → d.quote name = name := by
  rw [texts, texts, List.map_inj_left]
  constructor
  · intro h name hname
    exact (String.toList_inj.mp (h _ hname)).symm
  · intro h p hp
    cases p with
    | ident name => exact congrArg String.toList (h name hp).symm
    | _ => rfl

/-- **A fragment is written alike under two settings only if quotes make no difference to it.** -/
theorem neutral_eq_iff (d : Dialect) (f : Fragment) (a b : Bool) :
    f.neutral { dialect := d, quoting := a } = f.neutral { dialect := d, quoting := b } ↔
      a = b ∨ ∀ name, .ident name ∈ f → d.quote name = name := by
  have hunquoted := (neutral_inj_of_length_le (texts_unquoted_le d f)).trans
    (texts_unquoted_eq_iff d f)
  cases a <;> cases b
  · simp
  · simpa using hunquoted
  · simpa [eq_comm] using hunquoted
  · simp

end Fragment

end PolySql

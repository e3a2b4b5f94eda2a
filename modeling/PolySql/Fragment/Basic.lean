import PolySql.Binding

/-!
# Statements under construction

A fragment is a part of a statement as a sequence of pieces: fixed text, identifiers, conditions
taken as they stand, and bound places.  Nothing in it depends on whether identifiers are quoted.
`Fragment.neutral` writes it with the neutral mark at every bound place, and `Fragment.bindings` are
its bindings from left to right.
-/

namespace PolySql

/-- A piece of a statement. -/
inductive Piece where
  /-- Words and signs of the language. -/
  | text (s : String)
  /-- A name, dotted or not. -/
  | ident (name : String)
  /-- A condition in SQL, with its own neutral marks, and the values for them. -/
  | raw (sql : String) (values : List Value)
  /-- A place for a binding. -/
  | bound (b : Binding)

/-- A part of a statement. -/
abbrev Fragment := List Piece

namespace Piece

/-- A bound value. -/
def value (v : Value) : Piece :=
  .bound (.value v)

/-- A piece in neutral form. -/
def neutral (w : Writer) : Piece → String
  | .text s => s
  | .ident name => w.identifier name
  | .raw sql _ => sql
  | .bound _ => "?"

/-- The bindings of a piece. -/
def bindings : Piece → List Binding
  | .raw _ values => values.map .value
  | .bound b => [b]
  | _ => []

end Piece

namespace Fragment

/-- A fragment in neutral form. -/
def neutral (w : Writer) (f : Fragment) : String :=
  String.ofList (f.flatMap fun piece => (piece.neutral w).toList)

/-- The bindings of a fragment, from left to right. -/
def bindings (f : Fragment) : List Binding :=
  f.flatMap Piece.bindings

/-- The slots of a fragment, from left to right. -/
def slots (f : Fragment) : List ReturningSlot :=
  f.bindings.filterMap Binding.slot?

/-- Fragments one after the other, with a text between neighbours. -/
def joined (separator : String) (fragments : List Fragment) : Fragment :=
  List.intercalate [.text separator] fragments

/-- A fragment between two texts. -/
def wrapped (before after : String) (f : Fragment) : Fragment :=
  .text before :: f ++ [.text after]

@[simp] theorem neutral_nil (w : Writer) : neutral w [] = "" := by
  simp [neutral]

@[simp] theorem neutral_text_cons (w : Writer) (s : String) (f : Fragment) :
    neutral w (.text s :: f) = s ++ neutral w f := by
  simp [neutral, Piece.neutral]

theorem neutral_ident_cons (w : Writer) (name : String) (f : Fragment) :
    neutral w (.ident name :: f) = w.identifier name ++ neutral w f := by
  simp [neutral, Piece.neutral]

@[simp] theorem neutral_value_cons (w : Writer) (v : Value) (f : Fragment) :
    neutral w (.value v :: f) = "?" ++ neutral w f := by
  simp [neutral, Piece.neutral, Piece.value]

theorem toList_neutral_append (w : Writer) (f g : Fragment) :
    (neutral w (f ++ g)).toList = (neutral w f).toList ++ (neutral w g).toList := by
  simp [neutral]

theorem neutral_append (w : Writer) (f g : Fragment) :
    neutral w (f ++ g) = neutral w f ++ neutral w g := by
  rw [← String.toList_inj, toList_neutral_append, String.toList_append]

@[simp] theorem bindings_nil : bindings [] = [] := rfl

@[simp] theorem bindings_append (f g : Fragment) :
    bindings (f ++ g) = bindings f ++ bindings g := by
  simp [bindings]

theorem bindings_cons (p : Piece) (f : Fragment) : bindings (p :: f) = p.bindings ++ bindings f :=
  rfl

@[simp] theorem bindings_text_cons (s : String) (f : Fragment) :
    bindings (.text s :: f) = bindings f := rfl

@[simp] theorem bindings_ident_cons (name : String) (f : Fragment) :
    bindings (.ident name :: f) = bindings f := rfl

@[simp] theorem bindings_bound_cons (b : Binding) (f : Fragment) :
    bindings (.bound b :: f) = b :: bindings f := rfl

@[simp] theorem bindings_value_cons (v : Value) (f : Fragment) :
    bindings (.value v :: f) = .value v :: bindings f := rfl

@[simp] theorem joined_nil (separator : String) : joined separator [] = [] := rfl

@[simp] theorem joined_singleton (separator : String) (f : Fragment) :
    joined separator [f] = f := by
  simp [joined, List.intercalate]

theorem joined_cons_cons (separator : String) (f g : Fragment) (fs : List Fragment) :
    joined separator (f :: g :: fs) = f ++ .text separator :: joined separator (g :: fs) := by
  simp [joined, List.intercalate]

end Fragment

end PolySql

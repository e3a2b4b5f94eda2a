import PolySql.Fragment.Basic
import PolySql.Text.Pattern

/-!
# Select lists

An item of a select list that consists of an expression, the word `as` and a name, with blanks
between them, is an expression with an alias; any other item is an identifier, without the blanks
around it.  Letters are compared under simple case folding, in which the long s (U+017F) is an s.
-/

namespace PolySql

/-- The form of an item with an alias: `(?i)^\s*(\S+)\s+as\s+(\S+)\s*$`. -/
def aliasPattern : Text.Pattern :=
  [{ charClass := .blank, repetition := .any },
    { charClass := .nonblank, repetition := .oneOrMore, captured := true },
    { charClass := .blank, repetition := .oneOrMore },
    { charClass := .letter 'a' },
    { charClass := .letter 's' },
    { charClass := .blank, repetition := .oneOrMore },
    { charClass := .nonblank, repetition := .oneOrMore, captured := true },
    { charClass := .blank, repetition := .any }]

/-- The expression and the alias of an item that has one. -/
def aliasParts? (item : String) : Option (String × String) :=
  match aliasPattern.captures? item.toList with
  | some [expr, name] => some (String.ofList expr, String.ofList name)
  | _ => none

namespace Fragment

/-- An item of a select list. -/
def selectItem (style : AliasStyle) (item : String) : Fragment :=
  match aliasParts? item with
  | some (expr, name) => [.ident expr, .text style.separator, .ident name]
  | none => [.ident (Text.trim item)]

/-- A select list; the empty one stands for all columns. -/
def selectList (style : AliasStyle) (items : List String) : Fragment :=
  if items.isEmpty then [.text "*"]
  else joined ", " (items.map (selectItem style))

end Fragment

namespace Writer

/-- An item of a select list as text. -/
def selectItem (w : Writer) (item : String) : String :=
  (Fragment.selectItem w.dialect.aliasStyle item).neutral w

/-- A select list as text. -/
def selectList (w : Writer) (items : List String) : String :=
  (Fragment.selectList w.dialect.aliasStyle items).neutral w

end Writer

end PolySql

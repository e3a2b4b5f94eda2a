import PolySql.Dialect.Basic
import PolySql.Text.Blank

/-!
# Quoted identifiers

The segments of a dotted name are quoted one by one: a closing quote inside a segment is written
twice, and the segment `*` stays as it is.  Without quoting a name is written as it stands.
-/

namespace PolySql

namespace Dialect

/-- The characters of a segment, every closing quote written twice. -/
def doubled (d : Dialect) (segment : List Char) : List Char :=
  segment.flatMap fun c => if c = d.closeQuote then [c, c] else [c]

/-- A segment of a name in its quotes. -/
def quoteSegment (d : Dialect) (segment : List Char) : List Char :=
  if segment = ['*'] then segment
  else d.openQuote :: d.doubled segment ++ [d.closeQuote]

/-- The segments of a dotted name. -/
def segments (name : String) : List (List Char) :=
  Text.fields (· == '.') name.toList

/-- A name in its quotes, segment by segment. -/
def quote (d : Dialect) (name : String) : String :=
  String.ofList (List.intercalate ['.'] ((segments name).map d.quoteSegment))

end Dialect

/-- How a statement is written: in which dialect, and whether its identifiers are quoted. -/
structure Writer where
  dialect : Dialect
  quoting : Bool

namespace Writer

/-- An identifier in a statement. -/
def identifier (w : Writer) (name : String) : String :=
  if w.quoting then w.dialect.quote name else name

/-- Two written pieces, the second one as the alias of the first. -/
def withAlias (w : Writer) (piece name : String) : String :=
  piece ++ w.dialect.aliasStyle.separator ++ name

/-- A text as a literal: in single quotes, with every single quote inside written twice. -/
def literal (s : String) : String :=
  String.ofList ('\'' :: s.toList.flatMap (fun c => if c = '\'' then [c, c] else [c]) ++ ['\''])

end Writer

end PolySql

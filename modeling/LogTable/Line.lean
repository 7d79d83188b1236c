import LogTable.Format

/-!
# Lines and cells

`Line.parse` splits a line into the cells of a format's columns: the text of each column's group without
the blanks around it, empty if the group took no part in the match. A line that the pattern does not match
is not a failure; it stays unparsed.
-/
namespace LogTable

/-- mirrors `Cell` and `CellView` -/
structure Cell where
  text : String
  fg : Option Color := none
  bg : Option Color := none
  deriving DecidableEq, Repr, Inhabited

/-- A cell without text or colors. -/
def Cell.blank : Cell := { text := "" }

/-- mirrors `LogLine` -/
inductive Line
  | unparsed
  | parsed (cells : List Cell)
  deriving DecidableEq, Repr

namespace Line

/-- mirrors `LogLine.is_valid` -/
def isParsed : Line → Bool
  | .unparsed => false
  | .parsed _ => true

/-- mirrors `LogLine.cells` -/
def cells : Line → List Cell
  | .unparsed => []
  | .parsed cells => cells

/-- The cells of the columns whose groups are given, from what the groups captured. -/
def cellsOf (groups : List Nat) (captures : List (Option String)) : List Cell :=
  groups.map fun g => { text := Unicode.trim ((captures[g]?.join).getD "") }

/-- A line's cells without colors.
mirrors `parse` -/
def parse (format : Format) (raw : String) : Line :=
  match format.regex with
  | none => .unparsed
  | some regex =>
    if format.columns.isEmpty then .unparsed
    else match regex.captures? raw with
      | none => .unparsed
      | some captures => .parsed (cellsOf format.groups captures)

end Line

end LogTable

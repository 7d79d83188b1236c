import LogTable.Paint
import LogTable.Source.Memory
import LogTable.Table.Store

/-!
# The table

A table shows lines under a format: a row for each line, a column for each column of the format. A row is
worked out when it is first looked at, and then kept until the table is reset. Of a line that the format
does not match the text is shown in the last column, and it is reported once.

The lines belong to someone else and may change at any time, so every question is asked of the lines as
they are; the table itself changes through `setFormat`, `reset` and `notice`, and by keeping rows.
-/
namespace LogTable

/-- What whoever shows the table is told.
mirrors `ModelEvent` -/
inductive TableEvent
  /-- Everything may be different. -/
  | reset
  /-- Rows came behind the others. -/
  | inserted (start stop : Nat)
  deriving DecidableEq, Repr

/-- mirrors `LogModel` -/
structure Table where
  /-- Nothing until a format is set. -/
  format : Option Format := none
  store : RowStore := {}

namespace Table

/-- The names of the columns.
mirrors `LogModel.columns` -/
def columns (t : Table) : List String :=
  match t.format with
  | some f => f.columns
  | none => []

/-- mirrors `LogModel.column_count` -/
def columnCount (t : Table) : Nat := t.columns.length

/-- The name of a column.
mirrors `LogModel.header` -/
def header? (t : Table) (column : Nat) : Option String := t.columns[column]?

/-! ## Changes -/

/-- Forgets every row.
mirrors `LogModel.reset` -/
def reset (t : Table) : Logged Table := do
  Logged.note (.tableReset t.store.size)
  return { t with store := t.store.clear }

/-- mirrors `LogModel.set_format` -/
def setFormat (t : Table) (f : Format) : Logged Table := { t with format := some f }.reset

/-- The table of a format.
mirrors `LogModel.with_format` -/
def ofFormat (f : Format) : Logged Table := ({} : Table).setFormat f

/-- Takes notice of a change of the lines.
mirrors `LogModel.on_line_count_changed` -/
def notice (t : Table) (c : LineChange) : Logged (Table × TableEvent) :=
  match c.effect with
  | .append start stop => do
    Logged.note (.rowsAppended start stop)
    return ({ t with store := t.store.cover stop }, .inserted start stop)
  | .reset => do return (← t.reset, .reset)

/-! ## Questions -/

/-- The row of a line that is not kept yet, which is kept then.
mirrors `LogModel.log_line` where the row is not cached -/
def addRow (t : Table) (f : Format) (row : Nat) (raw : String) : Logged (Line × Table) := do
  let line := Line.read f raw
  Logged.noteIf (!line.isParsed) (.unmatchedLine row raw)
  return (line, { t with store := t.store.insert row line })

/-- A row, if there is a format and a line for it.
mirrors `LogModel.log_line` -/
def line? (t : Table) (lines : Lines) (row : Nat) : Logged (Option Line × Table) :=
  match t.format, lines[row]? with
  | some f, some raw =>
    match t.store.get? row with
    | some line => pure (some line, t)
    | none => do
      let (line, t) ← t.addRow f row raw
      return (some line, t)
  | _, _ => pure (none, t)

/-- A row that is kept.
mirrors `LogModel.cached_row` -/
def kept? (t : Table) (row : Nat) : Option Line := t.store.get? row

/-- What a row shows in a column.
mirrors the cases of `LogModel.cell` -/
def cellOf (lines : Lines) (row column count : Nat) : Line → Option Cell
  | .parsed cells => cells[column]?
  | .unparsed => if column + 1 = count then lines[row]?.map fun raw => { text := raw } else none

/-- mirrors `LogModel.cell` -/
def cell? (t : Table) (lines : Lines) (row column : Nat) : Logged (Option Cell × Table) :=
  if column < t.columnCount then do
    let (line, t) ← t.line? lines row
    return (line.bind (cellOf lines row column t.columnCount), t)
  else pure (none, t)

/-- mirrors `CellRole` -/
inductive Role
  | text | foreground | background
  deriving DecidableEq, Repr

/-- mirrors `CellData` -/
inductive Datum
  | text (s : String)
  | color (c : Color)
  deriving DecidableEq, Repr

/-- mirrors the cases of `LogModel.data` -/
def Role.of (role : Role) (cell : Cell) : Option Datum :=
  match role with
  | .text => some (.text cell.text)
  | .foreground => cell.fg.map .color
  | .background => cell.bg.map .color

/-- One aspect of a cell.
mirrors `LogModel.data` -/
def datum? (t : Table) (lines : Lines) (row column : Nat) (role : Role) : Logged (Option Datum × Table) := do
  let (cell, t) ← t.cell? lines row column
  return (cell.bind role.of, t)

/-- The cells of some columns; a column that shows nothing has a blank one.
mirrors the loop of `LogModel.row` -/
def cells (t : Table) (lines : Lines) (row : Nat) : List Nat → Logged (List Cell × Table)
  | [] => pure ([], t)
  | column :: columns => do
    let (cell, t) ← t.cell? lines row column
    let (rest, t) ← t.cells lines row columns
    return (cell.getD .blank :: rest, t)

/-- A whole row, a cell for each column.
mirrors `LogModel.row` -/
def row? (t : Table) (lines : Lines) (row : Nat) : Logged (Option (List Cell) × Table) := do
  let (line, t) ← t.line? lines row
  if line.isNone then return (none, t)
  let (cells, t) ← t.cells lines row (List.range t.columnCount)
  return (some cells, t)

/-- Some rows, without those that there are not.
mirrors the loop of `TableSnapshot.capture` -/
def rows (t : Table) (lines : Lines) : List Nat → Logged (List (List Cell) × Table)
  | [] => pure ([], t)
  | r :: rest => do
    let (row, t) ← t.row? lines r
    let (more, t) ← t.rows lines rest
    return (row.toList ++ more, t)

/-- An account of the table for those who work on it.
mirrors `LogModel.fmt` -/
def account (t : Table) (lines : Lines) : String :=
  let name := match t.format with
    | some f => "Some(" ++ Text.quote f.name ++ ")"
    | none => "None"
  let fields := [("format", name), ("columns", Text.bracketed (t.columns.map Text.quote)),
    ("row_count", toString lines.size), ("cached_rows", toString t.store.size),
    ("covered_rows", toString t.store.covered)]
  "LogModel \x7b " ++ ", ".intercalate (fields.map fun (k, v) => s!"{k}: {v}") ++ " \x7d"

end Table

end LogTable

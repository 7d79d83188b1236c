import LogTable.Screen.Grid
import LogTable.View

/-!
# Drawing a frame

The last row of the screen is the status line. Above it stands the table: the header, then rows until the
space ends. Each column but the last is as wide as its longest text has characters, up to 40; the last
takes what is left; a blank cell stands between two columns.

A cell's style fills its column. The blank between columns has the style of the header in the header, and
none below it.
-/
namespace LogTable.Screen

/-! ## Columns -/

inductive ColumnWidth
  | length (n : Nat)
  /-- What the others leave. -/
  | fill
  deriving DecidableEq, Repr

/-- mirrors `MAX_COLUMN_WIDTH` -/
def widestColumn : Nat := 40

/-- The most characters in a text of this column. -/
def longest (s : Snapshot) (header : String) (column : Nat) : Nat :=
  ((s.rows.filterMap (·[column]?)).map (·.text.length)).foldl max header.length

/-- The widths of the columns.
mirrors `column_widths` -/
def textWidths (s : Snapshot) : List ColumnWidth :=
  s.headers.mapIdx fun i header =>
    if i + 1 = s.headers.length then .fill else .length (min (longest s header i) widestColumn)

/-- The columns of a table without headers: as many as the longest row has cells, all of one width. -/
def evenWidths (room : Nat) (s : Snapshot) : List ColumnWidth :=
  let count := (s.rows.map (·.length)).foldl max 0
  List.replicate count (.length (room / max count 1))

/-- The cells of each column on a screen of `room` cells. -/
def cellsOf (room : Nat) (widths : List ColumnWidth) : List Nat :=
  let taken := widths.foldl (fun sum w => sum + match w with
    | .length n => n
    | .fill => 0) 0
  widths.map fun
    | .length n => n
    | .fill => room - taken - (widths.length - 1)

/-! ## Rows -/

/-- Texts in columns, each with its style, with one blank cell between columns. -/
def columnsRow (room : Nat) (blank : Style) (widths : List Nat) (cells : List (String × Style)) : GridRow :=
  let parts := List.zipWith (fun w (text, style) => paint w style (lineTexts w (firstLine text))) widths cells
  fit room ⟨" ", blank⟩ ([⟨" ", blank⟩].intercalate parts)

/-- mirrors the header of `TerminalUI.render_table` -/
def headerRow (theme : Theme) (room : Nat) (widths : List Nat) (s : Snapshot) : GridRow :=
  columnsRow room theme.header widths (s.headers.map fun h => (h, theme.header))

/-- mirrors the rows of `TerminalUI.render_table` -/
def tableRow (theme : Theme) (room : Nat) (widths : List Nat) (cells : List Cell) : GridRow :=
  columnsRow room {} widths (cells.map fun c => (c.text, theme.cell c))

/-- mirrors `TerminalUI.render_status` -/
def statusRow (theme : Theme) (room : Nat) (text : String) : GridRow :=
  paint room theme.status (messageTexts room (firstLine text))

/-! ## Frames -/

/-- The rows of a screen of this size that shows a table and a status line.
mirrors `TerminalUI.render` -/
def draw (theme : Theme) (width height : Nat) (s : Snapshot) (status : String) : List GridRow :=
  match height with
  | 0 => []
  | room + 1 =>
    let widths := cellsOf width (if s.headers.isEmpty then evenWidths width s else textWidths s)
    let rows := headerRow theme width widths s :: s.rows.map (tableRow theme width widths)
    fit room (List.replicate width {}) rows ++ [statusRow theme width status]

/-- What a terminal is set to. -/
structure Modes where
  /-- The program's own screen is shown, not the one it was started on. -/
  alternate : Bool
  mouse : Bool
  cursor : Bool
  deriving DecidableEq, Repr

/-- Before the program has the terminal, and after it.
mirrors `TerminalUI.cleanup` -/
def Modes.idle : Modes := ⟨false, false, true⟩

/-- When the program has taken the terminal.
mirrors `TerminalUI.initialize` -/
def Modes.active : Modes := ⟨true, true, true⟩

end LogTable.Screen

import LogTable.Line

/-!
# Painting cells

Highlights are tried in order and the first that applies gives both colors of a cell. One of cell scope
applies to the cell of its own column; one of row scope looks at the cell of its own column and applies
to every cell of the row. Scope makes no difference to the order.

`colorsAt` says this for one cell. `paint` colors a whole line and asks each highlight for its verdict at
most once: the verdicts of a line are remembered, with the order in which they were asked for.
-/
namespace LogTable

/-- mirrors `CellColors` -/
structure Colors where
  fg : Option Color := none
  bg : Option Color := none
  deriving DecidableEq, Repr

namespace Highlight

/-- mirrors `CellColors.from_highlight` -/
def colors (h : Highlight) : Colors := ⟨h.fg, h.bg⟩

/-- The highlight may color the cell of this column.
mirrors the first half of `applies` -/
def reaches (h : Highlight) (column : Nat) : Bool := h.scope = .row || h.column = column

/-- The condition holds on the cell of the highlight's own column, which has to exist.
mirrors the second half of `applies` -/
def holdsOn (h : Highlight) (cells : List Cell) : Bool := cells[h.column]?.any fun c => h.holds c.text

/-- mirrors `applies` -/
def applies (h : Highlight) (cells : List Cell) (column : Nat) : Bool :=
  h.reaches column && h.holdsOn cells

end Highlight

/-- The colors of the first highlight that satisfies `p`. -/
def firstColors (p : Highlight → Bool) (highlights : List Highlight) : Colors :=
  ((highlights.find? p).map Highlight.colors).getD {}

/-- The colors of a cell in its row.
mirrors `resolve` -/
def colorsAt (format : Format) (cells : List Cell) (column : Nat) : Colors :=
  firstColors (fun h => h.applies cells column) format.highlights

/-- The colors of a cell by the highlights of cell scope alone.
mirrors `resolve_cell` -/
def ownColorsAt (format : Format) (text : String) (column : Nat) : Colors :=
  firstColors (fun h => h.scope = .cell && h.column = column && h.holds text) format.highlights

/-! ## A line at once -/

/-- The verdicts on a line: for each highlight the one given, and the highlights asked, the last first.
mirrors the verdicts of `apply_highlights` -/
structure Verdicts where
  given : List (Option Bool)
  asked : List Nat := []

namespace Verdicts

/-- No verdict yet on any of the highlights. -/
def none (count : Nat) : Verdicts := { given := List.replicate count Option.none }

/-- The verdict of highlight `i`, remembered or asked for. -/
def ask (v : Verdicts) (cells : List Cell) (i : Nat) (h : Highlight) : Bool × Verdicts :=
  match v.given[i]?.join with
  | some b => (b, v)
  | Option.none =>
    let b := h.holdsOn cells
    (b, ⟨v.given.set i (some b), i :: v.asked⟩)

end Verdicts

/-- The colors of one cell, by the highlights from number `i` on.
mirrors the inner loop of `apply_highlights` -/
def paintCell (cells : List Cell) (column : Nat) : Nat → List Highlight → Verdicts → Colors × Verdicts
  | _, [], v => ({}, v)
  | i, h :: rest, v =>
    if h.reaches column then
      match v.ask cells i h with
      | (true, v) => (h.colors, v)
      | (false, v) => paintCell cells column (i + 1) rest v
    else paintCell cells column (i + 1) rest v

/-- The colors of the cells of some columns.
mirrors the outer loop of `apply_highlights` -/
def paintColumns (highlights : List Highlight) (cells : List Cell) :
    List Nat → Verdicts → List Colors × Verdicts
  | [], v => ([], v)
  | column :: columns, v =>
    let (c, v) := paintCell cells column 0 highlights v
    let (cs, v) := paintColumns highlights cells columns v
    (c :: cs, v)

/-- The colors of all cells of a row. -/
def paintCells (highlights : List Highlight) (cells : List Cell) : List Colors × Verdicts :=
  paintColumns highlights cells (List.range cells.length) (.none highlights.length)

/-- Colors a line.
mirrors `apply_highlights` -/
def paint (format : Format) : Line → Line
  | .unparsed => .unparsed
  | .parsed cells =>
    .parsed (List.zipWith (fun cell c => { cell with fg := c.fg, bg := c.bg }) cells
      (paintCells format.highlights cells).1)

/-- A line's cells with their colors.
mirrors `process_line` -/
def Line.read (format : Format) (raw : String) : Line := paint format (Line.parse format raw)

end LogTable

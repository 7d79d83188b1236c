import LogTable.Screen.Style
import LogTable.Text.Width

/-!
# The grid of cells

The screen is a grid of cells, each with the text of one grapheme cluster and a style. A cluster two cells
wide has its text in the first of them and none in the second; a cluster that takes no cell joins the one
before it.

`Glyphs.place` puts a text into a run of cells from the left and stops at the first cluster that does not
fit. `paint` makes a run of exactly so many cells of it.
-/
namespace LogTable.Screen

open Text

structure GridCell where
  text : String := " "
  style : Style := {}
  deriving DecidableEq, Repr

abbrev GridRow := List GridCell

/-- The first line of a text; a carriage return in front of its end does not belong to it. -/
def firstLine (s : String) : List Char :=
  let line := s.toList.takeWhile (· ≠ '\n')
  if line.length < s.length && line.getLast? = some '\r' then line.dropLast else line

/-! ## Texts in cells -/

/-- Cells being filled, the last first, and what is waiting to join the first of them. -/
structure Glyphs where
  cells : List String := []
  lead : String := ""

namespace Glyphs

/-- Puts a cluster behind the others; one that takes no cell joins the one before it. -/
def add (g : Glyphs) (cluster : List Char) : Glyphs :=
  let text := String.ofList cluster
  match clusterWidth cluster, g.cells with
  | 0, [] => { g with lead := g.lead ++ text }
  | 0, "" :: _ => g
  | 0, cell :: rest => { g with cells := (cell ++ text) :: rest }
  | w + 1, cells => { cells := List.replicate w "" ++ (g.lead ++ text) :: cells }

def texts (g : Glyphs) : List String :=
  if g.cells.isEmpty && g.lead ≠ "" then [g.lead] else g.cells.reverse

/-- Puts clusters into `room` cells while they fit. -/
def place (room : Nat) (g : Glyphs) : List (List Char) → Glyphs
  | [] => g
  | c :: rest => if g.cells.length + clusterWidth c ≤ room then (g.add c).place room rest else g

end Glyphs

/-- The texts of at most `room` cells that show a line. A line that takes no cell is not shown. -/
def lineTexts (room : Nat) (line : List Char) : List String :=
  if width line = 0 then [] else (Glyphs.place room {} (graphemes line)).texts

/-- The same for a line of messages: clusters that take no cell, or more than there are, are left out. -/
def messageTexts (room : Nat) (line : List Char) : List String :=
  (Glyphs.place room {} ((graphemes line).filter fun c =>
    0 < clusterWidth c && clusterWidth c ≤ room)).texts

/-- Cells with these texts, and blank ones up to `room`. -/
def paint (room : Nat) (style : Style) (texts : List String) : GridRow :=
  (texts.take room).map (fun t => ⟨t, style⟩) ++ List.replicate (room - texts.length) ⟨" ", style⟩

theorem length_paint (room : Nat) (style : Style) (texts : List String) :
    (paint room style texts).length = room := by
  simp [paint]
  omega

/-- Exactly `room` items: what is too much goes, what is missing is `blank`. -/
def fit (room : Nat) (blank : α) (items : List α) : List α :=
  items.take room ++ List.replicate (room - items.length) blank

theorem length_fit (room : Nat) (blank : α) (items : List α) : (fit room blank items).length = room := by
  simp [fit]
  omega

/-! ## What is to be seen of a row -/

/-- The text of a row without the spaces at its end. -/
def rowText (row : GridRow) : String :=
  let cs := row.flatMap (·.text.toList)
  .ofList (cs.reverse.dropWhile (· = ' ')).reverse

/-- A longest run of cells in one style. -/
structure Run where
  start : Nat
  length : Nat
  style : Style
  deriving DecidableEq, Repr

/-- The runs of a row, from cell `x` on. -/
def runsFrom (x : Nat) : GridRow → List Run
  | [] => []
  | c :: rest =>
    match runsFrom (x + 1) rest with
    | r :: runs =>
      if r.style = c.style then ⟨x, r.length + 1, c.style⟩ :: runs else ⟨x, 1, c.style⟩ :: r :: runs
    | [] => [⟨x, 1, c.style⟩]

/-- The runs that are not in the terminal's own style. -/
def runs (row : GridRow) : List Run := (runsFrom 0 row).filter (·.style ≠ {})

end LogTable.Screen

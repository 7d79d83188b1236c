import LogTable.App
import LogTable.Screen.Draw

/-!
# The display

A frame is written to the terminal as its difference to the frame before: only cells that are not as they
were are written. A terminal whose size is set, be it to the size it had, shows nothing any more; if the
size is another one, the next frame is written as a whole.
-/
namespace LogTable

/-- The screen of a frame.
mirrors `TerminalUI.render` -/
def Frame.grid (w : Wording) (theme : Theme) (f : Frame) : List Screen.GridRow :=
  Screen.draw theme f.view.width f.view.height f.snapshot (f.view.status w).text

namespace Screen

structure Display where
  width : Nat
  height : Nat
  /-- The frame written last. -/
  written : List GridRow
  /-- What is to be seen. -/
  shown : List GridRow

namespace Display

def blank (width height : Nat) : List GridRow := List.replicate height (List.replicate width {})

/-- A display that shows nothing. -/
def new (width height : Nat) : Display := ⟨width, height, blank width height, blank width height⟩

/-- The size is set: nothing is to be seen any more. -/
def resize (d : Display) (width height : Nat) : Display :=
  if d.width = width ∧ d.height = height then { d with shown := blank width height } else new width height

/-- Writes the cells of a row that are not as before; the second cell of a wide character goes with the
first, which was written or not. -/
def writeRow (first : Bool) : GridRow → GridRow → GridRow → GridRow
  | before :: old, now :: new, seen :: shown =>
    let differs := if now.text = "" then first else now ≠ before
    (if differs then now else seen) :: writeRow differs old new shown
  | _, _, _ => []

def writeRows : List GridRow → List GridRow → List GridRow → List GridRow
  | before :: old, now :: new, seen :: shown => writeRow false before now seen :: writeRows old new shown
  | _, _, _ => []

/-- Writes a frame. -/
def write (d : Display) (rows : List GridRow) : Display :=
  { d with written := rows, shown := writeRows d.written rows d.shown }

end Display

end Screen

end LogTable

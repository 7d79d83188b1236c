import LogTable.Table.Basic
import LogTable.Path

/-!
# The view

A view is what of a table is on the screen: a run of rows from `top` on, as many as fit between the header
and the status line, and at least one. Positions are kept in bounds: `top` is at most `maxTop`, at which the
last row stands at the bottom. With `auto` set the view goes to the last row as rows come.

Row numbers have 64 bits; scrolling beyond them stops at the last one.
-/
namespace LogTable

/-- The largest row number. -/
def lastIndex : Nat := 0xFFFFFFFFFFFFFFFF

/-- Sums beyond the largest row number are that number. -/
def addUpTo (a b : Nat) : Nat := min (a + b) lastIndex

/-! ## The status line -/

/-- Why the format was not loaded again: a failure, or words for it. -/
inductive ReloadFault
  | failure (f : Failure)
  | words (text : String)

def ReloadFault.text (w : Wording) : ReloadFault → String
  | .failure f => f.message w
  | .words text => text

/-- A message for the user. -/
inductive Notice
  | autoScroll (on : Bool)
  | formatReloaded
  | noFormatFile
  | reloadFailed (why : ReloadFault)
  | words (text : String)

/-- mirrors the texts given to `StatusLine.set_message` -/
def Notice.text (w : Wording) : Notice → String
  | .autoScroll true => "Auto-scroll on"
  | .autoScroll false => "Auto-scroll off"
  | .formatReloaded => "Format reloaded"
  | .noFormatFile => "No format file"
  | .reloadFailed why => "Format reload failed: " ++ why.text w
  | .words text => text

/-- What the status line says: the file, the format, the rows shown, whether the view follows, and a
message.
mirrors what `StatusLine.format_status_line` is given -/
structure Status where
  file : String
  formatName : String
  start : Nat
  stop : Nat
  rowCount : Nat
  auto : Bool
  message : Option String := none

/-- The rows shown, counted from one. -/
def Status.position (s : Status) : String :=
  if s.rowCount = 0 then "Empty" else s!"{s.start + 1}-{s.stop}/{s.rowCount}"

/-- mirrors `StatusLine.format_status_line` -/
def Status.text (s : Status) : String :=
  " | ".intercalate ([s.file] ++ (if s.formatName = "" then [] else [s.formatName]) ++ [s.position] ++
    (if s.auto then ["FOLLOW"] else []) ++ s.message.toList)

/-! ## The view -/

/-- mirrors `ViewState` and its `StatusLine` -/
structure View where
  path : String
  formatName : String := ""
  top : Nat := 0
  rowCount : Nat := 0
  width : Nat
  height : Nat
  auto : Bool := false
  message : Option Notice := none

namespace View

/-- The name shown for the file.
mirrors `ViewState.filename` -/
def fileName (v : View) : String := (Path.fileName? v.path).getD "<unnamed>"

/-- Two lines of the screen are not for rows.
mirrors `ViewState.rows_per_page` -/
def page (v : View) : Nat := max (v.height - 2) 1

/-- mirrors `ViewState.max_top_row` -/
def maxTop (v : View) : Nat := v.rowCount - v.page

/-- Where the rows on the screen end.
mirrors the end of `ViewState.visible_range` -/
def stop (v : View) : Nat := min (v.top + v.page) v.rowCount

/-- Where the rows on the screen start.
mirrors the start of `ViewState.visible_range` -/
def start (v : View) : Nat := min v.top v.stop

/-- mirrors `ViewState.at_end` -/
def atEnd (v : View) : Bool := v.maxTop ≤ v.top

/-- mirrors `ViewState.scroll_down` -/
def scrollDown (v : View) (n : Nat) : View := { v with top := min (addUpTo v.top n) v.maxTop }

/-- mirrors `ViewState.scroll_up` -/
def scrollUp (v : View) (n : Nat) : View := { v with top := v.top - n }

/-- mirrors `ViewState.page_down` -/
def pageDown (v : View) : View := v.scrollDown v.page

/-- mirrors `ViewState.page_up` -/
def pageUp (v : View) : View := v.scrollUp v.page

/-- mirrors `ViewState.go_to_start` -/
def toStart (v : View) : View := { v with top := 0 }

/-- mirrors `ViewState.go_to_end` -/
def toEnd (v : View) : View := { v with top := v.maxTop }

/-- Goes to the end if the view follows, and else no further than that.
mirrors what `ViewState.on_model_event` does on a reset -/
def settle (v : View) : View := if v.auto then v.toEnd else { v with top := min v.top v.maxTop }

/-- Turns following on, which goes to the end, or off.
mirrors `ViewState.toggle_auto_scroll` -/
def toggleAuto (v : View) : View :=
  let v := { v with auto := !v.auto }
  if v.auto then v.toEnd else v

/-- Takes notice of a table event, after which the table has `rowCount` rows.
mirrors `ViewState.on_model_event` -/
def notice (v : View) (event : TableEvent) (rowCount : Nat) : View :=
  let v := { v with rowCount }
  match event with
  | .inserted _ _ => if v.auto then v.toEnd else v
  | .reset => v.settle

/-- The terminal has another size.
mirrors `ViewState.update_terminal_size` -/
def resize (v : View) (width height : Nat) : View :=
  if v.width = width && v.height = height then v else { v with width, height }.settle

/-- mirrors `ViewState.format_status_line` -/
def status (w : Wording) (v : View) : Status where
  file := v.fileName
  formatName := v.formatName
  start := v.start
  stop := v.stop
  rowCount := v.rowCount
  auto := v.auto
  message := v.message.map (·.text w)

end View

/-! ## Snapshots -/

/-- What one frame shows of a table.
mirrors `TableSnapshot` -/
structure Snapshot where
  headers : List String := []
  /-- The number of the first row. -/
  firstRow : Nat := 0
  rows : List (List Cell) := []
  deriving DecidableEq, Repr

/-- The rows from `start` up to `stop`, as far as there are lines.
mirrors `TableSnapshot.capture` -/
def Snapshot.capture (t : Table) (lines : Lines) (start stop : Nat) : Logged (Snapshot × Table) := do
  let (rows, t') ← t.rows lines (List.range' start (min stop lines.size - start))
  return (⟨t.columns, start, rows⟩, t')

end LogTable

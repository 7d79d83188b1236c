import LogTable.Keys
import LogTable.Watch

/-!
# The viewer

An `App` joins the lines of a log file, the table that shows them under a format, and the view of that
table. Three things move it: an action of the user (`act`), an event of the watch (`receive`), and drawing
(`snapshot`, `frame`), which works out rows that have not been shown before.

The lines change when the watch looks at the file, before the app is told; until then it shows some of the
lines that are already there under what it knew before.
-/
namespace LogTable

/-- What the viewer is started with.
mirrors `AppConfig` -/
structure Config where
  logPath : String
  formatPath : Option String := none
  pollMs : Nat := 250
  follow : Bool := true
  autoScroll : Bool := false
  deriving DecidableEq, Repr

/-- mirrors `Application` -/
structure App where
  config : Config
  follower : Follower
  table : Table
  view : View

/-- What is drawn at once.
mirrors what `UIRenderer.render` is given -/
structure Frame where
  view : View
  snapshot : Snapshot

namespace App

/-- The format to start with: that of the format file, or the plain one.
mirrors the choice of the format in `Application.new` -/
def startFormat (config : Config) (disk : Disk) : Logged (Except Failure Format) :=
  match config.formatPath with
  | some path => Format.load disk path
  | none => do return .ok (← Format.plain)

/-- The app of lines and a format, on a terminal of a size.
mirrors `Application.new` from where both files have been read -/
def ofFormat (config : Config) (follower : Follower) (width height : Nat) (format : Format) : Logged App := do
  let table ← Table.ofFormat format
  let view : View :=
    { path := config.logPath, formatName := format.name, width, height, auto := config.autoScroll }
  return { config, follower, table, view := view.notice .reset follower.lines.size }

/-- Opens the log file and then loads the format.
mirrors `Application.new` -/
def start (config : Config) (disk : Disk) (width height : Nat) : Logged (Except Failure App) :=
  match Follower.open? disk config.logPath with
  | .error why => pure (.error why)
  | .ok follower => do
    match ← startFormat config disk with
    | .error why => return .error why
    | .ok format => return .ok (← ofFormat config follower width height format)

/-- The number of rows there are now.
mirrors `LogModel.row_count` -/
def rowCount (app : App) : Nat := app.follower.lines.size

/-- mirrors `StatusLine.set_message` -/
def say (app : App) (message : Notice) : App := { app with view := { app.view with message := some message } }

/-- Shows the log under another format.
mirrors `Application.install_format` -/
def install (app : App) (format : Format) : Logged App := do
  let table ← app.table.setFormat format
  let view := { app.view with formatName := format.name }
  return { app with table, view := view.notice .reset app.rowCount }

/-! ## Actions -/

/-- Loads the format file again. Without success all stays as it was.
mirrors `Application.reload_format` -/
def reload (app : App) (disk : Disk) : Logged App :=
  match app.config.formatPath with
  | none => pure (app.say .noFormatFile)
  | some path => do
    match ← Format.load disk path with
    | .ok format => return (← app.install format).say .formatReloaded
    | .error why =>
      Logged.note (.reloadFailed true path why)
      return app.say (.reloadFailed (.failure why))

/-- What an action does to the view.
mirrors the cases of `Application.handle_action` -/
def moveView (v : View) : Action → View
  | .scroll .down n => v.scrollDown n
  | .scroll .up n => v.scrollUp n
  | .pageDown => v.pageDown
  | .pageUp => v.pageUp
  | .toStart => v.toStart
  | .toEnd => v.toEnd
  | .toggleAuto =>
    let v := v.toggleAuto
    { v with message := some (.autoScroll v.auto) }
  | .resize width height => v.resize width height
  | .reload | .quit => v

/-- mirrors `Application.handle_action` -/
def act (app : App) (disk : Disk) : Action → Logged App
  | .reload => app.reload disk
  | action => pure { app with view := moveView app.view action }

/-! ## Events of the watch -/

/-- mirrors `Application.handle_watch_event` -/
def receive (app : App) : Finding → Logged App
  | .lines c => do
    let (table, event) ← app.table.notice c
    return { app with table, view := app.view.notice event app.rowCount }
  | .format f => do return (← app.install f).say .formatReloaded
  | .formatFault why => pure (app.say (.reloadFailed why))

/-- mirrors the loop of `Application.event_loop` over the events that wait -/
def receiveAll (app : App) : List Finding → Logged App
  | [] => pure app
  | e :: rest => do (← app.receive e).receiveAll rest

/-! ## Drawing -/

/-- The rows on the screen.
mirrors `Application.snapshot` -/
def snapshot (app : App) : Logged (Snapshot × App) := do
  let (s, table) ← Snapshot.capture app.table app.follower.lines app.view.start app.view.stop
  return (s, { app with table })

/-- A frame. A message is shown in one frame only.
mirrors `Application.render` -/
def frame (app : App) : Logged (Frame × App) := do
  let (s, app) ← app.snapshot
  return (⟨app.view, s⟩, { app with view := { app.view with message := none } })

end App

end LogTable

import LogTable.App

/-!
# Sessions

A session is a viewer at work on a terminal: it draws a frame when it starts, and again after each action of
the user and after each look of the watch that found something. All events of one look are taken up before
a frame is drawn. The session ends with the action to quit, after which nothing is drawn.
-/
namespace LogTable

structure Session where
  app : App
  format : Option Stamp
  running : Bool := true

namespace Session

/-- Starts the viewer and draws the first frame.
mirrors `Application.new`, and `Application.run` up to its first frame -/
def start (config : Config) (disk : Disk) (width height : Nat) :
    Logged (Except Failure (Session × Frame)) := do
  match ← App.start config disk width height with
  | .error why => return .error why
  | .ok app =>
    let (frame, app) ← app.frame
    return .ok ({ app, format := config.formatPath.map (Stamp.new disk) }, frame)

/-- Draws a frame of an app.
mirrors `Application.render` in `Application.event_loop` -/
def redraw (s : Session) (app : App) : Logged (Session × List Frame) := do
  let (frame, app) ← app.frame
  return ({ s with app }, [frame])

/-- Takes up what the terminal reports.
mirrors `Application.event_loop` on an action -/
def input (s : Session) (disk : Disk) (e : TerminalEvent) : Logged (Session × List Frame) :=
  match s.running, e.action? with
  | true, some .quit => pure ({ s with running := false }, [])
  | true, some action => do s.redraw (← s.app.act disk action)
  | _, _ => pure (s, [])

/-- What the session watches.
mirrors what `Application.run` gives to `watch_loop` -/
def watch (s : Session) : Watch :=
  { follower := if s.app.config.follow then some s.app.follower else none, format := s.format }

/-- Lets the watch look at the files.
mirrors one turn of `watch_loop`, and `Application.event_loop` on its events -/
def tick (s : Session) (disk : Disk) : Logged (Session × List Frame) := do
  if !s.running then return (s, [])
  let (w, events) ← s.watch.tick disk
  let s := { s with app := { s.app with follower := w.follower.getD s.app.follower }, format := w.format }
  if events.isEmpty then return (s, [])
  s.redraw (← s.app.receiveAll events)

/-- Takes up events one after the other, while the files stay as they are. -/
def inputAll (s : Session) (disk : Disk) : List TerminalEvent → Logged (Session × List Frame)
  | [] => pure (s, [])
  | e :: rest => do
    let (s, frames) ← s.input disk e
    let (s, more) ← s.inputAll disk rest
    return (s, frames ++ more)

end Session

end LogTable

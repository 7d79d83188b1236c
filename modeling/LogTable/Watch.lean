import LogTable.Format.File
import LogTable.Source.Follower
import LogTable.View

/-!
# Watching files

The watch looks at the log file and at the format file from time to time. What it finds is told as
`Finding`s, in the order in which it happened; whoever shows the log takes them up later.

A format file has changed if the time of its last change is not the one seen last, be it earlier or later.
A missing format file is no news and does not make the watch forget that time. As with the log file, it is
looked at first and then read, and may change in between.
-/
namespace LogTable

/-- mirrors `WatchEvent` -/
inductive Finding
  | lines (c : LineChange)
  | format (f : Format)
  /-- The format file changed, but no format could be loaded from it. -/
  | formatFault (why : ReloadFault)

/-! ## The format file -/

/-- A format file as it was seen last.
mirrors `FormatWatch` -/
structure Stamp where
  path : String
  /-- The time of the last change seen, if the file has been seen. -/
  modified : Option Int

namespace Stamp

/-- The time of the last change of what stands at a path.
mirrors `modified_time` -/
def modified? (disk : Disk) (path : String) : Option Int := (disk.read path).toOption.map Node.modified

/-- Takes what is there now as known.
mirrors `FormatWatch.new` -/
def new (disk : Disk) (path : String) : Stamp := ⟨path, modified? disk path⟩

/-- What was loaded, or why not, is reported and told.
mirrors what `collect_events` does with a format -/
def announce (s : Stamp) : Except Failure Format → Logged (List Finding)
  | .ok f => do
    Logged.note (.formatReloaded s.path)
    return [.format f]
  | .error why => do
    Logged.note (.reloadFailed false s.path why)
    return [.formatFault (.failure why)]

/-- Looks at the disk `first` and loads from the disk `then'`, which may have changed in between.
mirrors `FormatWatch.poll`, and `collect_events` behind it -/
def pollAcross (s : Stamp) (first then' : Disk) : Logged (Stamp × List Finding) :=
  match modified? first s.path with
  | none => pure (s, [])
  | some time =>
    if s.modified = some time then pure (s, [])
    else do
      let s := { s with modified := some time }
      return (s, ← s.announce (← Format.load then' s.path))

/-- Looks at the format file while nobody writes. -/
def poll (s : Stamp) (disk : Disk) : Logged (Stamp × List Finding) := s.pollAcross disk disk

end Stamp

/-! ## Both files -/

/-- What is watched: the log file if it is followed, and the format file if there is one.
mirrors what `watch_loop` is given -/
structure Watch where
  follower : Option Follower := none
  format : Option Stamp := none

namespace Watch

/-- Looks at the log file on the disk `first` and reads it from the disk `then'`. That it cannot be read is
reported only.
mirrors what `collect_events` does with the log file -/
def pollLogAcross (f : Follower) (first then' : Disk) : Logged (Follower × List Finding) := do
  match ← f.refreshAcross first then' with
  | .ok (f, changes) => return (f, changes.map .lines)
  | .error why =>
    Logged.note (.refreshFailed why)
    return (f, [])

/-- Looks at the log file while nobody writes. -/
def pollLog (f : Follower) (disk : Disk) : Logged (Follower × List Finding) := pollLogAcross f disk disk

/-- Looks at the log file and then at the format file.
mirrors `collect_events` -/
def tick (w : Watch) (disk : Disk) : Logged (Watch × List Finding) := do
  let (follower, fromLog) ← match w.follower with
    | some f => do
      let (f, events) ← pollLog f disk
      pure (some f, events)
    | none => pure (none, [])
  let (format, fromFormat) ← match w.format with
    | some f => do
      let (f, events) ← f.poll disk
      pure (some f, events)
    | none => pure (none, [])
  return (⟨follower, format⟩, fromLog ++ fromFormat)

end Watch

end LogTable

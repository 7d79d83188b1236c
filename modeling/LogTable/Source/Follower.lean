import LogTable.Disk
import LogTable.Journal
import LogTable.Source.Memory

/-!
# Following a log file

A `Follower` holds the lines of a file as far as they have been read, and what it has to know to go on:
how many bytes have become lines, how many have been seen, whether the last line had no newline, and
which file it was.

Looking again takes three steps, and others may write between any two of them:

1. the file at the path is looked at, which decides what to do (`plan`);
2. it is read, either from the start or from behind the bytes that have become lines;
3. what has been read is taken over (`takeAll`, `takeTail`).

New bytes become lines up to their last newline; what stands behind it waits. A file that is another one,
or shorter than before, or that goes on with a line already shown, is read again from the start.
-/
namespace LogTable

/-- mirrors `FileLineProvider` and its `FileState` -/
structure Follower where
  path : String
  lines : Lines
  /-- Bytes that have become lines. -/
  read : Nat
  /-- Bytes there were when the file was last read, those that wait among them. -/
  seen : Nat
  /-- The last line had no newline. -/
  openTail : Bool
  identity : Nat

namespace Follower

/-- The follower of a file that has been read as a whole.
mirrors `FileState.load` -/
def ofFile (path : String) (f : File) : Follower :=
  let (lines, complete) := linesOf f.bytes
  { path
    lines := lines.toArray
    read := f.bytes.length
    seen := f.bytes.length
    openTail := !complete
    identity := f.identity }

/-- Reads the file at a path for the first time.
mirrors `FileLineProvider.open`, and `validate_file_path` in it -/
def open? (disk : Disk) (path : String) : Except Failure Follower :=
  match disk.read path with
  | .error _ => .error (.notFound path)
  | .ok .directory => .error (.notAFile path)
  | .ok (.file f) => .ok (ofFile path f)

/-! ## Looking again -/

inductive Plan
  | idle | reload | readTail
  deriving DecidableEq, Repr

/-- What to do about what stands at the path now.
mirrors `FileLineProvider.refresh` up to where it reads -/
def plan (f : Follower) : Node → Plan
  | .directory => .reload
  | .file file =>
    if file.identity ≠ f.identity ∨ file.bytes.length < f.seen then .reload
    else if file.bytes.length = f.seen then .idle
    else if f.openTail then .reload
    else .readTail

/-- Takes over a file read from the start: all lines go, and those of the file come.
mirrors `FileLineProvider.reload` from where the file has been read -/
def takeAll (f : Follower) (file : File) : Follower × List LineChange :=
  let fresh := ofFile f.path file
  let gone : LineChange := ⟨0, f.lines.size⟩
  (fresh, if fresh.lines.size = 0 then [gone] else [gone, ⟨fresh.lines.size, 0⟩])

/-- Takes over bytes read from behind those that have become lines.
mirrors `FileLineProvider.refresh` from where the tail has been read -/
def takeTail (f : Follower) (tail : List UInt8) : Follower × List LineChange :=
  let seen := f.read + tail.length
  let complete := completePart tail
  if complete.isEmpty then ({ f with seen }, [])
  else
    let (lines, change) := f.lines.extend (linesOf complete).1
    ({ f with lines, seen, read := f.read + complete.length }, [change])

/-- Reads the file from the start and takes it over.
mirrors `FileLineProvider.reload` -/
def reload (f : Follower) (disk : Disk) : Logged (Except Failure (Follower × List LineChange)) :=
  match disk.read f.path with
  | .error cause => pure (.error (.file (.openLog f.path) cause))
  | .ok .directory => pure (.error (.file (.readLog f.path) .isADirectory))
  | .ok (.file file) => do
    let (fresh, changes) := f.takeAll file
    Logged.note (.fileRewritten f.path f.lines.size fresh.lines.size)
    return .ok (fresh, changes)

/-- Reads what stands behind the bytes that have become lines, and takes it over.
mirrors `FileLineProvider.read_from`, and `FileLineProvider.refresh` from there on -/
def readTail (f : Follower) (disk : Disk) : Except Failure (Follower × List LineChange) :=
  match disk.read f.path with
  | .error cause => .error (.file (.openLog f.path) cause)
  | .ok .directory => .error (.file .readTail .isADirectory)
  | .ok (.file file) => .ok (f.takeTail (file.bytes.drop f.read))

/-- Looks at the disk `first` and reads from the disk `then'`, which may have changed in between.
mirrors `FileLineProvider.refresh` -/
def refreshAcross (f : Follower) (first then' : Disk) :
    Logged (Except Failure (Follower × List LineChange)) :=
  match first.read f.path with
  | .error cause => pure (.error (.file (.statLog f.path) cause))
  | .ok node =>
    match f.plan node with
    | .idle => pure (.ok (f, []))
    | .reload => f.reload then'
    | .readTail => pure (f.readTail then')

/-- Looks again while nobody writes. -/
def refresh (f : Follower) (disk : Disk) : Logged (Except Failure (Follower × List LineChange)) :=
  f.refreshAcross disk disk

end Follower

end LogTable

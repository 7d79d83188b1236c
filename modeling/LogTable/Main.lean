import LogTable.Program
import LogTable.Screen.Escape

/-!
# The command

`main` runs the program on the terminal it was started on: it reads the files that the command line names,
lets a session work on them, draws its frames, and writes its records down. All else is `Program`.
-/
namespace LogTable.Command

/-- Adds what stands at a path. The first file of a disk has the same identity whenever it is read. -/
def addPath (disk : Disk) (path : String) : IO Disk := do
  try
    let info ← ((← IO.currentDir) / path).metadata
    match info.type with
    | .dir => return disk.mkdir path
    | _ =>
      let time := info.modified.sec * 1000000000 + info.modified.nsec.toNat
      return disk.writeStamped path (← IO.FS.readBinFile path).toList time
  catch _ => return disk

/-- The files that a command line names, as they are now. -/
def readDisk (command : CommandLine) : IO Disk := do
  let parent := command.logFile.map fun path => "/".intercalate (Text.pieces '/' path).dropLast
  let paths := command.config.logPath :: command.config.formatPath.toList ++ parent.toList
  paths.foldlM addPath {}

/-- The size of the terminal, as far as it is told. -/
def size : IO (Nat × Nat) := do
  let number (name : String) (otherwise : Nat) : IO Nat := do
    return ((← IO.getEnv name).bind String.toNat?).getD otherwise
  return (← number "COLUMNS" 80, ← number "LINES" 24)

/-- What a session works with: how to read the files and the next byte from the terminal, and what to do with
frames and records. -/
structure Stage where
  disk : IO Disk
  next : IO (Task (Except IO.Error ByteArray))
  draw : Frame → IO Unit
  write : List Record → IO Unit
  pollMs : Nat

/-- Draws and writes down what a step of a session gave. -/
def Stage.perform (stage : Stage) (x : Logged (Session × List Frame)) : IO Session := do
  x.value.2.forM stage.draw
  stage.write x.records
  return x.value.1

/-- What a session waits for. -/
structure Waiting where
  input : Task (Except IO.Error ByteArray)
  /-- What the terminal has sent, taken up when nothing follows for a while. -/
  sent : List UInt8 := []
  isQuiet : Bool := true
  /-- Milliseconds since the watch looked at the files. -/
  waited : Nat := 0

/-- Lets a session work until it ends or the terminal sends nothing more. -/
partial def serve (stage : Stage) (session : Session) (w : Waiting) : IO Unit := do
  if !session.running then return
  if ← IO.hasFinished w.input then
    match w.input.get with
    | .error _ => return
    | .ok bytes =>
      if bytes.isEmpty then return
      serve stage session { w with input := ← stage.next, sent := w.sent ++ bytes.toList, isQuiet := false }
  else if w.isQuiet && !w.sent.isEmpty then
    let events := Screen.Escape.decode (Text.decode w.sent).toList
    let session ← stage.perform (session.inputAll (← stage.disk) events)
    serve stage session { w with sent := [] }
  else if stage.pollMs ≤ w.waited then
    let session ← stage.perform (session.tick (← stage.disk))
    serve stage session { w with waited := 0 }
  else
    IO.sleep 10
    serve stage session { w with isQuiet := true, waited := w.waited + 10 }

/-- Tells how the program ended. -/
def finish (outcome : Program.Outcome) : IO UInt32 := do
  outcome.errors.forM IO.eprintln
  return outcome.exit.toUInt32

/-- A session on the terminal. -/
def converse (setup : Program.Setup) (log : Option IO.FS.Handle) : IO UInt32 := do
  let w := Wording.plain
  setup.warnings.forM IO.eprintln
  let (width, height) ← size
  let write (records : List Record) : IO Unit :=
    match log with
    | some handle => (setup.kept w records).forM handle.putStrLn
    | none => pure ()
  let config := setup.command.config
  let started := Session.start config setup.disk width height
  write started.records
  match started.value with
  | .error why => finish (Program.failed config w why)
  | .ok (session, frame) =>
    let (stdin, stdout) := (← IO.getStdin, ← IO.getStdout)
    let draw (f : Frame) : IO Unit := do
      stdout.putStr (Screen.Escape.frameCode (f.grid w .standard))
      stdout.flush
    let next := IO.asTask (stdin.read 1) .dedicated
    stdout.putStr Screen.Escape.enter
    draw frame
    serve ⟨readDisk setup.command, next, draw, write, config.pollMs⟩ session { input := ← next }
    write [.inputStopped]
    stdout.putStr Screen.Escape.leave
    stdout.flush
    return 0

end LogTable.Command

open LogTable in
def main (words : List String) : IO UInt32 := do
  let disk ← match CommandLine.parse words with
    | .ok command => Command.readDisk command
    | .error fault =>
      fault.answer?.forM IO.println
      pure {}
  match Program.prepare .plain words (← IO.getEnv "RUST_LOG") disk with
  | .error outcome => Command.finish outcome
  | .ok setup =>
    match setup.command.logFile with
    | none => Command.converse setup none
    | some path => Command.converse setup (some (← IO.FS.Handle.mk path .write))

import LogTable.CommandLine
import LogTable.LogFilter
import LogTable.Session

/-!
# The program

A run of the program from its command line to its end: it reads the command line, opens the file for its
records if one is named, opens the log and loads the format, and then is in a session until the user quits.
The first of these that fails ends the run; the exit code is then 2 for a mistake in the command line and 1
for all else.

Records are kept if a file is named for them, as the filter says; without a filter from outside, that is
down to warnings.
-/
namespace LogTable

namespace Program

/-- What the program has told when it ends. -/
structure Outcome where
  exit : Nat
  /-- Lines for the user outside the screen. -/
  errors : List String := []
  /-- The frame drawn last. -/
  last : Option Frame := none
  /-- The records kept, as they are written down. -/
  log : List String := []

/-! ## Reports -/

/-- A cause in a report, with its number if there are several; its lines stand below each other. -/
def causeLines (number : Option Nat) (message : String) : List String :=
  let (first, blanks) := match number with
    | some n => (s!"    {n}: ", "       ")
    | none => ("    ", "    ")
  (Text.pieces '\n' message).mapIdx fun i line => (if i = 0 then first else blanks) ++ line

/-- What failed, and its causes, each that of the one before. -/
def report (what : String) (causes : List String) : List String :=
  Text.pieces '\n' s!"Error: {what}" ++ ["", "Caused by:"] ++ match causes with
    | [only] => causeLines none only
    | causes => (causes.mapIdx fun i cause => causeLines (some i) cause).flatten

/-- A failure and what lies behind it. -/
def chain (w : Wording) (f : Failure) : List String :=
  f.message w :: (f.cause?.map OsFault.text).toList

/-! ## Setting up -/

/-- What a session starts from. -/
structure Setup where
  command : CommandLine
  filter : LogFilter
  warnings : List String
  /-- The disk, with the file for the records. -/
  disk : Disk

/-- The filter if none comes from outside.
mirrors the choice of the filter in `init_logging` -/
def standardFilter (command : CommandLine) : String := if command.logFile.isSome then "warn" else "error"

/-- Makes the file for the records.
mirrors `init_logging` -/
def openLog (command : CommandLine) (disk : Disk) : Except Outcome Disk :=
  match command.logFile with
  | none => .ok disk
  | some path => match disk.create path with
    | .ok disk => .ok disk
    | .error cause =>
      .error { exit := 1, errors := report s!"Failed to create log file: {path}" [cause.text] }

def prepare (w : Wording) (words : List String) (filter : Option String) (disk : Disk) :
    Except Outcome Setup :=
  match CommandLine.parse words with
  | .error fault =>
    .error { exit := fault.exitCode, errors := if fault.exitCode = 0 then [] else fault.message?.toList }
  | .ok command => do
    let disk ← openLog command disk
    let (filter, faults) := LogFilter.parse (filter.getD (standardFilter command))
    return { command, filter, warnings := faults.map (·.message w), disk }

/-- The records kept, as they are written down. -/
def Setup.kept (w : Wording) (s : Setup) (records : List Record) : List String :=
  if s.command.logFile.isSome then (records.filter (s.filter.keeps w)).map (Record.line w) else []

/-! ## A whole run -/

/-- A session in which the terminal reports these events. -/
def converse (config : Config) (disk : Disk) (width height : Nat) (events : List TerminalEvent) :
    Logged (Except Failure Frame) := do
  match ← Session.start config disk width height with
  | .error why => return .error why
  | .ok (session, frame) =>
    let (_, frames) ← session.inputAll disk events
    Logged.note .inputStopped
    return .ok (frames.getLast?.getD frame)

/-- The end of a run that could not open its files. -/
def failed (config : Config) (w : Wording) (why : Failure) : Outcome :=
  { exit := 1, errors := report s!"Failed to open {config.logPath}" (chain w why) }

/-- mirrors `main` -/
def run (w : Wording) (words : List String) (filter : Option String) (disk : Disk) (width height : Nat)
    (events : List TerminalEvent) : Outcome :=
  match prepare w words filter disk with
  | .error outcome => outcome
  | .ok setup =>
    let config := setup.command.config
    let result := converse config setup.disk width height events
    let log := setup.kept w result.records
    match result.value with
    | .ok frame => { exit := 0, errors := setup.warnings, last := some frame, log }
    | .error why =>
      let outcome := failed config w why
      { outcome with errors := setup.warnings ++ outcome.errors, log }

end Program

end LogTable

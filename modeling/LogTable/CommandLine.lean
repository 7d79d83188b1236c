import LogTable.App

/-!
# The command line

The words of a command line are read from left to right. A word is the path of the log file, a flag, or an
option, whose value is attached to it or is the next word. Short ones may stand together behind one dash.
Behind the word `--` there are paths only.

An option is checked when what follows it is known: that it has a value, that it was not given before, and
what its value says. A word that nothing is known of, or a value where none belongs, wins over what is
wrong with the option in front of it.
-/
namespace LogTable

/-! ## Options and flags -/

inductive CommandOption
  | format | pollInterval | logFile
  deriving DecidableEq, Repr

inductive CommandFlag
  | noFollow | autoScroll | help | version
  deriving DecidableEq, Repr

inductive CommandSwitch
  | option (o : CommandOption)
  | flag (f : CommandFlag)
  deriving DecidableEq, Repr

namespace CommandSwitch

/-- What stands behind two dashes. -/
def ofLong? : String → Option CommandSwitch
  | "format" => some (.option .format)
  | "poll-interval" => some (.option .pollInterval)
  | "log-file" => some (.option .logFile)
  | "no-follow" => some (.flag .noFollow)
  | "auto-scroll" => some (.flag .autoScroll)
  | "help" => some (.flag .help)
  | "version" => some (.flag .version)
  | _ => none

/-- What stands behind one dash. -/
def ofShort? : Char → Option CommandSwitch
  | 'f' => some (.option .format)
  | 'h' => some (.flag .help)
  | 'V' => some (.flag .version)
  | _ => none

/-- How it is shown. -/
def text : CommandSwitch → String
  | .option .format => "--format <PATH>"
  | .option .pollInterval => "--poll-interval <MS>"
  | .option .logFile => "--log-file <PATH>"
  | .flag .noFollow => "--no-follow"
  | .flag .autoScroll => "--auto-scroll"
  | .flag .help => "--help"
  | .flag .version => "--version"

end CommandSwitch

/-! ## Faults -/

/-- Why a text is not a number in a range. -/
inductive NumberFault
  | empty | notADigit | tooLarge
  | outOfRange (n : Nat)
  deriving DecidableEq, Repr

inductive UsageFault
  /-- The user asked what the program does. -/
  | help
  | version
  | unknown (word : String)
  | unneededValue (switch : CommandSwitch) (value : String)
  | missingValue (option : CommandOption)
  | repeated (switch : CommandSwitch)
  | badNumber (option : CommandOption) (value : String) (fault : NumberFault)
  | missingFile
  deriving DecidableEq, Repr

/-- The fewest milliseconds between two looks at the files. -/
def leastInterval : Nat := 10

def NumberFault.message : NumberFault → String
  | .empty => "cannot parse integer from empty string"
  | .notADigit => "invalid digit found in string"
  | .tooLarge => "number too large to fit in target type"
  | .outOfRange n => s!"{n} is not in {leastInterval}..{lastIndex}"

/-- What the user is told who asks for help.
mirrors the help that `cli` gives -/
def CommandLine.usage : String := "\n".intercalate [
  "Shows a log file as a table with highlighted columns",
  "",
  "Usage: rltable [OPTIONS] <file>",
  "",
  "Arguments:",
  "  <file>  Path to the log file to view",
  "",
  "Options:",
  "  -f, --format <PATH>       TOML format file (pattern and highlight rules)",
  "      --poll-interval <MS>  How often to check the files for changes [default: 250]",
  "      --no-follow           Do not pick up lines appended to the log file",
  "      --auto-scroll         Start with the view pinned to the last row",
  "      --log-file <PATH>     Write diagnostics to this file (filtered by RUST_LOG)",
  "  -h, --help                Print help",
  "  -V, --version             Print version"]

/-- The name and the number of the program. -/
def CommandLine.version : String := "rltable 0.1.0"

namespace UsageFault

/-- What the user asked to be told. -/
def answer? : UsageFault → Option String
  | .help => some CommandLine.usage
  | .version => some CommandLine.version
  | _ => none

/-- The first line of what the user is told; nothing in particular if help was asked for. -/
def message? : UsageFault → Option String
  | .help => none
  | .version => some CommandLine.version
  | .unknown word => some s!"error: unexpected argument '{word}' found"
  | .unneededValue switch value =>
    some s!"error: unexpected value '{value}' for '{switch.text}' found; no more were expected"
  | .missingValue option =>
    let switch := CommandSwitch.option option
    some s!"error: a value is required for '{switch.text}' but none was supplied"
  | .repeated switch => some s!"error: the argument '{switch.text}' cannot be used multiple times"
  | .badNumber option value fault =>
    let switch := CommandSwitch.option option
    some s!"error: invalid value '{value}' for '{switch.text}': {fault.message}"
  | .missingFile => some "error: the following required arguments were not provided:"

/-- To be told what was asked for is no mistake. -/
def exitCode : UsageFault → Nat
  | .help | .version => 0
  | _ => 2

end UsageFault

/-! ## Numbers -/

/-- Reads digits behind the number `n`; what is wrong first counts. -/
def readDigits (n : Nat) : List Char → Except NumberFault Nat
  | [] => .ok n
  | c :: cs =>
    if !c.isDigit then .error .notADigit
    else
      let n := n * 10 + (c.toNat - '0'.toNat)
      if lastIndex < n then .error .tooLarge else readDigits n cs

/-- A number of milliseconds, perhaps with a plus sign. -/
def readInterval (text : String) : Except NumberFault Nat := do
  let n ← match text.toList with
    | [] => throw .empty
    | ['+'] => throw .notADigit
    | '+' :: digits => readDigits 0 digits
    | digits => readDigits 0 digits
  if n < leastInterval then throw (.outOfRange n)
  return n

/-! ## Reading -/

/-- What a command line says.
mirrors what `main` reads off `cli` -/
structure CommandLine where
  config : Config
  logFile : Option String := none
  deriving DecidableEq, Repr

/-- What has been read so far. -/
structure CommandReader where
  file : Option String := none
  format : Option String := none
  pollMs : Option Nat := none
  logFile : Option String := none
  noFollow : Bool := false
  autoScroll : Bool := false
  /-- The option that was read last, with its value if there is one yet; it is not checked yet. -/
  pending : Option (CommandOption × Option String) := none
  /-- Only paths follow. -/
  escaped : Bool := false

namespace CommandReader

/-- An option with its value, given for the first time. -/
def setOption (r : CommandReader) (o : CommandOption) (value : String) : Except UsageFault CommandReader :=
  match o with
  | .format =>
    if r.format.isSome then .error (.repeated (.option o)) else .ok { r with format := some value }
  | .logFile =>
    if r.logFile.isSome then .error (.repeated (.option o)) else .ok { r with logFile := some value }
  | .pollInterval =>
    if r.pollMs.isSome then .error (.repeated (.option o))
    else match readInterval value with
      | .ok n => .ok { r with pollMs := some n }
      | .error fault => .error (.badNumber o value fault)

/-- Checks the option that was read last. -/
def settle (r : CommandReader) : Except UsageFault CommandReader :=
  match r.pending with
  | none => .ok r
  | some (o, none) => .error (.missingValue o)
  | some (o, some value) => { r with pending := none }.setOption o value

/-- An option with a value attached to it. -/
def attach (r : CommandReader) (o : CommandOption) (value : String) : Except UsageFault CommandReader := do
  (← r.settle).setOption o value

/-- An option whose value is the next word. -/
def await (r : CommandReader) (o : CommandOption) : Except UsageFault CommandReader := do
  return { ← r.settle with pending := some (o, none) }

def setFlag (r : CommandReader) (f : CommandFlag) : Except UsageFault CommandReader := do
  let r ← r.settle
  match f with
  | .help => throw .help
  | .version => throw .version
  | .noFollow => if r.noFollow then throw (.repeated (.flag f)) else return { r with noFollow := true }
  | .autoScroll => if r.autoScroll then throw (.repeated (.flag f)) else return { r with autoScroll := true }

/-- The only path there may be. -/
def setFile (r : CommandReader) (path : String) : Except UsageFault CommandReader := do
  if r.file.isSome then throw (.unknown path)
  return { ← r.settle with file := some path }

/-- What stands behind two dashes: a name, and perhaps a value behind an equals sign. -/
def readLong (r : CommandReader) (cs : List Char) : Except UsageFault CommandReader :=
  let name := String.ofList (cs.takeWhile (· ≠ '='))
  match CommandSwitch.ofLong? name, cs.dropWhile (· ≠ '=') with
  | none, _ => .error (.unknown ("--" ++ name))
  | some (.option o), [] => r.await o
  | some (.option o), _ :: value => r.attach o (.ofList value)
  | some (.flag f), [] => r.setFlag f
  | some (.flag f), _ :: value => .error (.unneededValue (.flag f) (.ofList value))

/-- What stands behind one dash: flags, and at the end perhaps an option with its value. -/
def readShort (r : CommandReader) : List Char → Except UsageFault CommandReader
  | [] => .ok r
  | c :: cs =>
    match CommandSwitch.ofShort? c, cs with
    | none, _ => .error (.unknown (.ofList ['-', c]))
    | some (.flag f), _ => do (← r.setFlag f).readShort cs
    | some (.option o), [] => r.await o
    | some (.option o), '=' :: value => r.attach o (.ofList value)
    | some (.option o), value => r.attach o (.ofList value)

/-- A word that begins with no dash, or is nothing but one. -/
def readText (r : CommandReader) (word : String) : Except UsageFault CommandReader :=
  match r.pending with
  | some (o, none) => .ok { r with pending := some (o, some word) }
  | _ => r.setFile word

def read (r : CommandReader) (word : String) : Except UsageFault CommandReader :=
  if r.escaped then r.setFile word
  else match word.toList with
    | ['-', '-'] => .ok { r with escaped := true }
    | '-' :: '-' :: cs => r.readLong cs
    | ['-'] => r.readText word
    | '-' :: cs => r.readShort cs
    | _ => r.readText word

/-- What was read as a whole.
mirrors `config_from_args` -/
def finish (r : CommandReader) : Except UsageFault CommandLine := do
  let r ← r.settle
  match r.file with
  | none => throw .missingFile
  | some logPath =>
    let config : Config :=
      { logPath, formatPath := r.format, follow := !r.noFollow, autoScroll := r.autoScroll }
    return { config := { config with pollMs := r.pollMs.getD config.pollMs }, logFile := r.logFile }

end CommandReader

/-- Reads a command line, the name of the program not among its words. -/
def CommandLine.parse (words : List String) : Except UsageFault CommandLine := do
  (← words.foldlM CommandReader.read {}).finish

end LogTable

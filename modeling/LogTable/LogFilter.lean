import LogTable.Journal
import LogTable.Regex.Basic
import LogTable.Text.Pieces

/-!
# Which records are kept

A filter says down to which level the records of each part of the program are kept. It is written as
directives between commas, each a level for all parts, the name of a part, or a name and a level with an
equals sign between them; a name alone means every level. Behind a slash may stand a regular expression,
which the text of a record has to match.

A name stands for all parts whose names begin with it. Of several directives the one with the longest name
counts, and of equal names the last. Without directives only errors are kept. A directive that makes no
sense is left out, with a warning.
-/
namespace LogTable

namespace Level

/-- Lower for what is more urgent. -/
def rank : Level → Nat
  | .error => 1
  | .warn => 2
  | .info => 3
  | .debug => 4
  | .trace => 5

/-- A level by its name in any case. -/
def ofName? (name : String) : Option Level :=
  [Level.error, .warn, .info, .debug, .trace].find? fun l => l.name = name.toUpper

end Level

structure LogDirective where
  /-- The beginning of the names of parts; without one, all of them. -/
  name : Option String
  /-- The least urgent level kept; nothing if none is. -/
  level : Option Level
  deriving DecidableEq, Repr

namespace LogDirective

/-- The level that a text names; `off` is none. -/
def level? (text : String) : Option (Option Level) :=
  if text.toUpper = "OFF" then some none else (Level.ofName? text).map some

inductive Fault
  | level (text : String)
  | shape (text : String)
  deriving DecidableEq, Repr

def Fault.text : Fault → String
  | .level text | .shape text => text

/-- Reads one directive. -/
def parse (text : String) : Except Fault LogDirective :=
  match Text.pieces '=' text with
  | [only] => match level? only with
    | some level => .ok ⟨none, level⟩
    | none => .ok ⟨some only, some .trace⟩
  | [name, level] =>
    let level := Unicode.trim level
    if level = "" then .ok ⟨some name, some .trace⟩
    else match level? level with
      | some l => .ok ⟨some name, l⟩
      | none => .error (.level level)
  | _ => .error (.shape text)

/-- The length of the name in bytes. -/
def reach (d : LogDirective) : Nat := (d.name.getD "").utf8ByteSize

def covers (d : LogDirective) (target : String) : Bool :=
  match d.name with
  | some name => name.toList.isPrefixOf target.toList
  | none => true

end LogDirective

structure LogFilter where
  directives : List LogDirective := []
  pattern : Option Regex := none

namespace LogFilter

inductive Fault
  | directive (f : LogDirective.Fault)
  | slashes (text : String)
  | pattern (f : Regex.Fault)

def Fault.message (w : Wording) : Fault → String
  | .directive f => s!"warning: invalid logging spec '{f.text}', ignoring it"
  | .slashes text => s!"warning: invalid logging spec '{text}' (too many '/'s), ignoring it"
  | .pattern f => s!"warning: invalid regex filter - {w.pattern f}, ignoring it"

/-- Adds a directive; one with the same name goes. -/
def add (f : LogFilter) (d : LogDirective) : LogFilter :=
  if f.directives.any (·.name = d.name) then
    { f with directives := f.directives.map fun e => if e.name = d.name then d else e }
  else { f with directives := f.directives ++ [d] }

/-- Adds directives, and gives the faults of those that make no sense. -/
def addAll (f : LogFilter) : List String → LogFilter × List Fault
  | [] => (f, [])
  | text :: rest =>
    if text = "" then f.addAll rest
    else match LogDirective.parse text with
      | .ok d => (f.add d).addAll rest
      | .error fault =>
        let (f, faults) := f.addAll rest
        (f, .directive fault :: faults)

/-- Reads a filter. What makes no sense is left out. -/
def parse (text : String) : LogFilter × List Fault :=
  match Text.pieces '/' text with
  | [directives] => addAll {} ((Text.pieces ',' directives).map Unicode.trim)
  | [directives, pattern] =>
    let (f, faults) := addAll {} ((Text.pieces ',' directives).map Unicode.trim)
    match Regex.compile pattern with
    | .ok regex => ({ f with pattern := some regex }, faults)
    | .error fault => (f, faults ++ [.pattern fault])
  | _ => ({}, [.slashes text])

/-- The directive with the longest name, of equal ones the last, that covers a part of the program. -/
def directive? (f : LogFilter) (target : String) : Option LogDirective :=
  (f.directives.filter (·.covers target)).foldl (fun best d => match best with
    | some b => if b.reach ≤ d.reach then some d else some b
    | none => some d) none

/-- The least urgent level kept of a part of the program. -/
def levelOf (f : LogFilter) (target : String) : Option Level :=
  if f.directives.isEmpty then some .error else (f.directive? target).bind (·.level)

/-- The record is kept. -/
def keeps (w : Wording) (f : LogFilter) (r : Record) : Bool :=
  (f.levelOf r.origin.target).any (fun l => r.level.rank ≤ l.rank) &&
    f.pattern.all fun p => p.isMatch (r.text w)

end LogFilter

/-- A record as it is written down: level, part of the program, text. Its lines after the first are
indented. -/
def Record.line (w : Wording) (r : Record) : String :=
  let level := r.level.name
  let blanks := String.ofList (List.replicate (5 - level.length) ' ')
  let text := "\n    ".intercalate (Text.pieces '\n' (r.text w))
  s!"{level}{blanks} {r.origin.target}] {text}"

end LogTable

import LogTable.Failure

/-!
# The journal

What the program has to say about its own work is data: every operation that reports something gives its
`Record`s with its result, in the order in which they arise. A record is a cause, like a failure; its level
and the part of the program it comes from are read off it, and `Record.text` words it.
-/
namespace LogTable

inductive Level
  | error | warn | info | debug | trace
  deriving DecidableEq, Repr

def Level.name : Level → String
  | .error => "ERROR"
  | .warn => "WARN"
  | .info => "INFO"
  | .debug => "DEBUG"
  | .trace => "TRACE"

/-- The part of the program that a record comes from. -/
inductive Origin
  | loader | format | condition | table | app | watcher | input | file
  deriving DecidableEq, Repr

def Origin.target : Origin → String
  | .loader => "rltable::format::loader"
  | .format => "rltable::format::log_format"
  | .condition => "rltable::format::condition"
  | .table => "rltable::model::table"
  | .app => "rltable::app"
  | .watcher => "rltable::app::watcher"
  | .input => "rltable::app::runtime"
  | .file => "rltable::line_source::file"

inductive Record
  | invalidPattern (pattern : String) (fault : Regex.Fault)
  | noColumns (pattern : String)
  | invalidCondition (definition : String) (reason : ConditionFault)
  | columnOutOfRange (definition : String) (column : Nat) (format : String) (count : Nat)
  | formatLoaded (name path : String) (columns highlights : Nat)
  /-- A line that the format does not match, by its row. -/
  | unmatchedLine (row : Nat) (raw : String)
  | tableReset (cached : Nat)
  | rowsAppended (start stop : Nat)
  | fileRewritten (path : String) (old new : Nat)
  | refreshFailed (why : Failure)
  | formatReloaded (path : String)
  /-- The format file could not be loaded again; the watcher noticed its change or the user asked. -/
  | reloadFailed (asked : Bool) (path : String) (why : Failure)
  | watcherStopped
  | inputStopped
  deriving Repr

namespace Record

def level : Record → Level
  | .invalidPattern .. | .noColumns .. | .invalidCondition .. | .columnOutOfRange .. | .unmatchedLine ..
  | .refreshFailed .. | .reloadFailed .. => .warn
  | .formatLoaded .. | .formatReloaded .. => .info
  | .tableReset .. | .rowsAppended .. | .fileRewritten .. | .watcherStopped | .inputStopped => .debug

def origin : Record → Origin
  | .invalidPattern .. | .noColumns .. | .columnOutOfRange .. => .format
  | .invalidCondition .. => .condition
  | .formatLoaded .. => .loader
  | .unmatchedLine .. | .tableReset .. | .rowsAppended .. => .table
  | .fileRewritten .. => .file
  | .refreshFailed .. | .formatReloaded .. | .watcherStopped => .watcher
  | .reloadFailed asked .. => if asked then .app else .watcher
  | .inputStopped => .input

/-- Lines are counted from one. -/
def text (w : Wording) : Record → String
  | .invalidPattern pattern fault => s!"Invalid format pattern `{pattern}`: {w.pattern fault}"
  | .noColumns pattern => s!"Format pattern `{pattern}` defines no columns"
  | .invalidCondition definition reason =>
    (Failure.condition definition reason).message w ++ "; highlight will never match"
  | .columnOutOfRange definition column format count =>
    s!"Highlight `{definition}` targets column {column} but format `{format}` has {count} columns"
  | .formatLoaded name path columns highlights =>
    s!"Loaded format `{name}` from {path} ({columns} columns, {highlights} highlights)"
  | .unmatchedLine row raw => s!"Line {row + 1} does not match: {raw}"
  | .tableReset cached => s!"Resetting model ({cached} cached rows)"
  | .rowsAppended start stop => s!"Rows {start}..{stop} appended"
  | .fileRewritten path old new => s!"{path} was rewritten: {old} -> {new} lines"
  | .refreshFailed why => s!"Failed to refresh log file: {why.message w}"
  | .formatReloaded path => s!"Reloaded format from {path}"
  | .reloadFailed _ path why => s!"Failed to reload format {path}: {why.message w}"
  | .watcherStopped => "Watcher stopped"
  | .inputStopped => "Input thread stopped"

end Record

/-! ## Results with their records -/

/-- A result and what was reported on the way to it. -/
structure Logged (α : Type) where
  value : α
  records : List Record := []

namespace Logged

def note (r : Record) : Logged Unit := ⟨(), [r]⟩

/-- Reports `r` if `p` holds. -/
def noteIf (p : Bool) (r : Record) : Logged Unit := ⟨(), if p then [r] else []⟩

instance : Monad Logged where
  pure a := ⟨a, []⟩
  bind x f := let y := f x.value; ⟨y.value, x.records ++ y.records⟩

@[simp] theorem value_pure (a : α) : (pure a : Logged α).value = a := rfl

@[simp] theorem records_pure (a : α) : (pure a : Logged α).records = [] := rfl

@[simp] theorem value_bind (x : Logged α) (f : α → Logged β) : (x >>= f).value = (f x.value).value := rfl

@[simp] theorem records_bind (x : Logged α) (f : α → Logged β) :
    (x >>= f).records = x.records ++ (f x.value).records := rfl

@[simp] theorem value_note (r : Record) : (note r).value = () := rfl

@[simp] theorem records_note (r : Record) : (note r).records = [r] := rfl

end Logged

end LogTable

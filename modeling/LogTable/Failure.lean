import LogTable.Regex.Fault
import LogTable.Toml.Value
import LogTable.Text.Quoted
import LogTable.Number.Shortest

/-!
# Failures

What can go wrong at the edges: files, format files, conditions, the terminal. A failure is kept as its
cause; `Failure.message` words it. How a faulty pattern and a faulty document are worded is left open
(`Wording`), since those texts belong to the languages they are written in.
-/
namespace LogTable

structure Wording where
  pattern : Regex.Fault → String
  document : Toml.Fault → String

def Wording.plain : Wording := ⟨Regex.Fault.message, Toml.Fault.message⟩

/-! ## Conditions -/

inductive ConditionFault
  | unknownOperator
  | pattern (f : Regex.Fault)
  | notANumber (operand : String)
  deriving DecidableEq, Repr

def ConditionFault.message (w : Wording) : ConditionFault → String
  | .unknownOperator => "unknown operator"
  | .pattern f => w.pattern f
  | .notANumber operand => s!"`{operand}` is not a number"

/-! ## Format files -/

/-- What stands where something else was expected. -/
def describe : Toml.Value → String
  | .string s => "string " ++ Text.quote s
  | .integer n => s!"integer `{n}`"
  | .float x => s!"floating point `{x.text}`"
  | .boolean b => if b then "boolean `true`" else "boolean `false`"
  | .datetime | .table _ => "map"
  | .array _ => "sequence"

/-- The type of a value, in the words of the document's language. -/
def typeName : Toml.Value → String
  | .string _ => "string"
  | .integer _ => "integer"
  | .float _ => "float"
  | .boolean _ => "boolean"
  | .datetime => "datetime"
  | .array _ => "array"
  | .table _ => "table"

/-- A list of alternatives: `a` or `b`, or one of several. -/
def oneOf : List String → String
  | [] => "nothing"
  | [a] => s!"`{a}`"
  | [a, b] => s!"`{a}` or `{b}`"
  | names => "one of " ++ ", ".intercalate (names.map fun n => s!"`{n}`")

/-- How a document misses the shape of a format file. -/
inductive SchemaFault
  | unknownField (name : String) (known : List String)
  | missingField (name : String)
  | wrongType (found : Toml.Value) (wanted : String)
  | tooShort (length : Nat)
  | unknownVariant (name : String) (known : List String)
  | scopeType
  | scopeSize (isEmpty : Bool)
  | variantContent
  | variantType (found : Toml.Value)
  | columnType
  | unknownColor (text : String)
  deriving Repr

def SchemaFault.message : SchemaFault → String
  | .unknownField name known => s!"unknown field `{name}`, expected {oneOf known}"
  | .missingField name => s!"missing field `{name}`"
  | .wrongType found wanted => s!"invalid type: {describe found}, expected {wanted}"
  | .tooShort n => s!"invalid length {n}, expected struct HighlightEntry with 5 elements"
  | .unknownVariant name known => s!"unknown variant `{name}`, expected {oneOf known}"
  | .scopeType => "wanted string or table"
  | .scopeSize true => "wanted exactly 1 element, found 0 elements"
  | .scopeSize false => "wanted exactly 1 element, more than 1 element"
  | .variantContent => "expected empty table"
  | .variantType found => s!"expected table, found {typeName found}"
  | .columnType => "data did not match any variant of untagged enum ColumnRef"
  | .unknownColor text => s!"Configuration error: Unknown color: {text}"

inductive DocumentFault
  | toml (f : Toml.Fault)
  | schema (f : SchemaFault)
  deriving Repr

def DocumentFault.message (w : Wording) : DocumentFault → String
  | .toml f => w.document f
  | .schema f => f.message

inductive ConfigFault
  | unknownColor (text : String)
  /-- The document of a format file, with the file's path if it was read from one. -/
  | document (path : Option String) (f : DocumentFault)
  | unknownColumn (condition name : String)
  deriving Repr

def ConfigFault.message (w : Wording) : ConfigFault → String
  | .unknownColor text => s!"Unknown color: {text}"
  | .document none f => s!"Invalid TOML: {f.message w}"
  | .document (some path) f => s!"Invalid TOML in {path}: {f.message w}"
  | .unknownColumn condition name => s!"Highlight `{condition}` refers to unknown column `{name}`"

/-! ## Files -/

inductive OsFaultKind
  | notFound | denied | other
  deriving DecidableEq, Repr

/-- What the operating system reports. -/
structure OsFault where
  kind : OsFaultKind
  text : String
  deriving DecidableEq, Repr

namespace OsFault

def notFound : OsFault := ⟨.notFound, "No such file or directory (os error 2)"⟩
def denied : OsFault := ⟨.denied, "Permission denied (os error 13)"⟩
def notADirectory : OsFault := ⟨.other, "Not a directory (os error 20)"⟩
def isADirectory : OsFault := ⟨.other, "Is a directory (os error 21)"⟩
def badText : OsFault := ⟨.other, "stream did not contain valid UTF-8"⟩

end OsFault

/-- What was being done with a file. -/
inductive FileTask
  | openLog (path : String)
  | statLog (path : String)
  | readLog (path : String)
  | readTail
  | checkLog
  | readFormat (path : String)
  /-- Something not named, told by its kind of failure. -/
  | missing | denied | unnamed
  | named (text : String)
  deriving DecidableEq, Repr

def FileTask.message : FileTask → String
  | .openLog path => s!"Failed to open file: {path}"
  | .statLog path => s!"Failed to read file metadata: {path}"
  | .readLog path => s!"Failed to read file: {path}"
  | .readTail => "Failed to read appended data"
  | .checkLog => "Cannot open file for reading"
  | .readFormat path => s!"Failed to read format file: {path}"
  | .missing => "File not found"
  | .denied => "Permission denied"
  | .unnamed => "IO operation failed"
  | .named text => text

/-- mirrors `RltableError` -/
inductive Failure
  | file (task : FileTask) (cause : OsFault)
  | notFound (path : String)
  | notAFile (path : String)
  | condition (definition : String) (reason : ConditionFault)
  | config (f : ConfigFault)
  | ui (text : String)
  deriving Repr

namespace Failure

def message (w : Wording) : Failure → String
  | .file task _ => s!"File operation failed: {task.message}"
  | .notFound path => s!"File not found: {path}"
  | .notAFile path => s!"Path is not a regular file: {path}"
  | .condition definition reason => s!"Invalid condition `{definition}`: {reason.message w}"
  | .config f => s!"Configuration error: {f.message w}"
  | .ui text => s!"UI operation failed: {text}"

/-- What lies behind the failure. -/
def cause? : Failure → Option OsFault
  | .file _ cause => some cause
  | _ => none

/-- The failure of something that is known by what the operating system reports alone.
mirrors `RltableError.from` -/
def ofOs (cause : OsFault) : Failure :=
  .file (match cause.kind with
    | .notFound => .missing
    | .denied => .denied
    | .other => .unnamed) cause

end Failure

end LogTable

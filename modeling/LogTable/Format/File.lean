import LogTable.Format
import LogTable.Disk
import LogTable.Text.Utf8
import LogTable.Toml.Parser

/-!
# Format files

A format file is a TOML document with a `pattern`, optionally a `name`, and any number of `highlights`,
each with a `column` and a `condition` and optionally a `scope`, `fg` and `bg`. A column is given by name
or by number.

The entries of a table are looked at in their order, and the first that does not fit is the failure;
only then are missing ones noticed. Faulty patterns and conditions are no failures; unknown columns and
colors are.
-/
namespace LogTable

open Toml (Value)

/-- A column by number or by name.
mirrors `ColumnRef` -/
inductive ColumnKey
  | index (n : Nat)
  | name (s : String)
  deriving DecidableEq, Repr

/-- mirrors `HighlightEntry` -/
structure RuleEntry where
  column : ColumnKey
  scope : Scope := .cell
  condition : String
  fg : Option Color := none
  bg : Option Color := none
  deriving Repr

/-- mirrors `FormatFile` -/
structure FormatFile where
  name : Option String := none
  pattern : String
  highlights : List RuleEntry := []
  deriving Repr

/-! ## From a document -/

abbrev Decode := Except SchemaFault

def decodeString : Value → Decode String
  | .string s => .ok s
  | v => .error (.wrongType v "a string")

/-- mirrors how `ColumnRef` is read -/
def decodeColumn : Value → Decode ColumnKey
  | .integer n => if 0 ≤ n then .ok (.index n.toNat) else .error .columnType
  | .string s => .ok (.name s)
  | _ => .error .columnType

/-- mirrors `Color.try_from` -/
def decodeColor (v : Value) : Decode Color := do
  let text ← decodeString v
  match Color.parse? text with
  | some c => return c
  | none => throw (.unknownColor text)

def scopeOfName (name : String) : Decode Scope :=
  match name with
  | "cell" => .ok .cell
  | "row" => .ok .row
  | _ => .error (.unknownVariant name ["cell", "row"])

/-- The value behind the name of a scope, which says nothing. -/
def checkEmpty : Value → Decode Unit
  | .table [] | .array [] => .ok ()
  | .table _ | .array _ => .error .variantContent
  | v => .error (.variantType v)

/-- A scope is its name, or a table whose only key is its name.
mirrors how `Scope` is read -/
def decodeScope : Value → Decode Scope
  | .string s => scopeOfName s
  | .table [(name, v)] => do
    let scope ← scopeOfName name
    checkEmpty v
    return scope
  | .table entries => .error (.scopeSize entries.isEmpty)
  | _ => .error .scopeType

/-- The fields of a highlight found so far. -/
structure EntryFields where
  column : Option ColumnKey := none
  scope : Option Scope := none
  condition : Option String := none
  fg : Option Color := none
  bg : Option Color := none

namespace EntryFields

def names : List String := ["column", "scope", "condition", "fg", "bg"]

/-- Takes the value of a field. -/
def take (e : EntryFields) (name : String) (v : Value) : Decode EntryFields := do
  match name with
  | "column" => return { e with column := ← decodeColumn v }
  | "scope" => return { e with scope := ← decodeScope v }
  | "condition" => return { e with condition := ← decodeString v }
  | "fg" => return { e with fg := ← decodeColor v }
  | "bg" => return { e with bg := ← decodeColor v }
  | _ => throw (.unknownField name names)

def takeAll (e : EntryFields) (entries : List (String × Value)) : Decode EntryFields :=
  entries.foldlM (fun e (name, v) => e.take name v) e

/-- The highlight, if no field is missing; `column` and `condition` say what a missing field is. -/
def finish (e : EntryFields) (column condition : SchemaFault) : Decode RuleEntry :=
  match e.column, e.condition with
  | none, _ => .error column
  | _, none => .error condition
  | some c, some d => .ok ⟨c, e.scope.getD .cell, d, e.fg, e.bg⟩

end EntryFields

/-- A highlight is a table, or an array of the values of its fields in their order.
mirrors how `HighlightEntry` is read -/
def decodeRule : Value → Decode RuleEntry
  | .table entries => do
    (← EntryFields.takeAll {} entries).finish (.missingField "column") (.missingField "condition")
  | .array values => do
    (← EntryFields.takeAll {} (EntryFields.names.zip values)).finish (.tooShort 0) (.tooShort 2)
  | .datetime => .error (.unknownField "$__toml_private_datetime" EntryFields.names)
  | v => .error (.wrongType v "struct HighlightEntry")

def decodeRules : Value → Decode (List RuleEntry)
  | .array values => values.mapM decodeRule
  | v => .error (.wrongType v "a sequence")

/-- The fields of a format file found so far. -/
structure FileFields where
  name : Option String := none
  pattern : Option String := none
  highlights : List RuleEntry := []

def FileFields.take (f : FileFields) (name : String) (v : Value) : Decode FileFields := do
  match name with
  | "name" => return { f with name := some (← decodeString v) }
  | "pattern" => return { f with pattern := some (← decodeString v) }
  | "highlights" => return { f with highlights := ← decodeRules v }
  | _ => throw (.unknownField name ["name", "pattern", "highlights"])

namespace FormatFile

/-- mirrors how `FormatFile` is read -/
def decode (entries : List (String × Value)) : Decode FormatFile := do
  let f ← entries.foldlM (fun f (name, v) => f.take name v) ({} : FileFields)
  match f.pattern with
  | none => throw (.missingField "pattern")
  | some pattern => return ⟨f.name, pattern, f.highlights⟩

/-- Reads a document. -/
def parse (text : String) : Except DocumentFault FormatFile :=
  match Toml.parse text with
  | .error f => .error (.toml f)
  | .ok entries => (decode entries).mapError .schema

/-! ## To a format -/

/-- The number of a column.
mirrors the lookup of a column in `FormatFile.into_format` -/
def resolveColumn (f : Format) (e : RuleEntry) : Except ConfigFault Nat :=
  match e.column with
  | .index n => .ok n
  | .name s => match f.columnNamed? s with
    | some n => .ok n
    | none => .error (.unknownColumn e.condition s)

def addEntry (f : Format) (e : RuleEntry) : Logged (Except ConfigFault Format) :=
  match resolveColumn f e with
  | .error fault => pure (.error fault)
  | .ok column => do
    let h ← Highlight.new column e.condition
    return .ok (← f.add { h with scope := e.scope, fg := e.fg, bg := e.bg })

/-- mirrors the loop of `FormatFile.into_format` -/
def addEntries (f : Format) : List RuleEntry → Logged (Except ConfigFault Format)
  | [] => pure (.ok f)
  | e :: rest => do
    match ← addEntry f e with
    | .ok f => addEntries f rest
    | .error fault => return .error fault

/-- mirrors `FormatFile.into_format` -/
def toFormat (file : FormatFile) : Logged (Except ConfigFault Format) := do
  let f ← Format.new file.pattern
  addEntries (match file.name with
    | some name => f.named name
    | none => f) file.highlights

end FormatFile

/-- The format that a text describes.
mirrors `parse_format` -/
def Format.ofText (text : String) : Logged (Except Failure Format) :=
  match FormatFile.parse text with
  | .error f => pure (.error (.config (.document none f)))
  | .ok file => do return (← file.toFormat).mapError .config

/-- The text of the file at a path. -/
def Disk.readText (disk : Disk) (path : String) : Except OsFault String :=
  match disk.read path with
  | .error cause => .error cause
  | .ok .directory => .error .isADirectory
  | .ok (.file f) => match Text.decode? f.bytes with
    | some text => .ok text
    | none => .error .badText

/-- Loads a format file. Without a name of its own the format gets that of the file.
mirrors `load_format` -/
def Format.load (disk : Disk) (path : String) : Logged (Except Failure Format) :=
  match disk.readText path with
  | .error cause => pure (.error (.file (.readFormat path) cause))
  | .ok text =>
    match FormatFile.parse text with
    | .error f => pure (.error (.config (.document (some path) f)))
    | .ok file => do
      match ← file.toFormat with
      | .error fault => return .error (.config fault)
      | .ok f =>
        let f := match file.name, Path.fileStem? path with
          | none, some stem => f.named stem
          | _, _ => f
        Logged.note (.formatLoaded f.name path f.columnCount f.highlights.length)
        return .ok f

end LogTable

import LogTable.Highlight

/-!
# Formats

A format says how a line becomes a row: its pattern has a named group for each column, and its highlights
color the cells. The first named group only anchors the pattern and makes no column. A pattern that does
not compile, or has no other named group, gives a format without columns, under which no line parses.

The columns, the numbers of their groups and the highlights are lists; a highlight is known by its place.
-/
namespace LogTable

/-- mirrors `LogFormat` -/
structure Format where
  name : String := "default"
  pattern : String
  /-- Nothing if the pattern is faulty. -/
  regex : Option Regex
  columns : List String
  /-- The number of the group behind each column. -/
  groups : List Nat
  highlights : List Highlight := []

namespace Format

/-- The named groups: name and number. -/
def namedGroups (regex : Regex) : List (String × Nat) :=
  regex.names.zipIdx.filterMap fun (name, i) => name.map fun n => (n, i)

/-- The groups that make columns.
mirrors `LogFormat.named_columns` -/
def dataGroups (regex : Regex) : List (String × Nat) := (namedGroups regex).drop 1

/-- mirrors `LogFormat.new` -/
def new (pattern : String) : Logged Format :=
  match Regex.compile pattern with
  | .ok regex => do
    let columns := dataGroups regex
    Logged.noteIf columns.isEmpty (.noColumns pattern)
    return { pattern, regex := some regex, columns := columns.map (·.1), groups := columns.map (·.2) }
  | .error fault => do
    Logged.note (.invalidPattern pattern fault)
    return { pattern, regex := none, columns := [], groups := [] }

/-- mirrors `LogFormat.with_name` -/
def named (f : Format) (name : String) : Format := { f with name }

/-- The pattern whose one column is the whole line. -/
def wholeLine : String := "^(?<anchor>)(?<line>.*)$"

/-- Shows each line as it is.
mirrors `LogFormat.plain` -/
def plain : Logged Format := do return (← new wholeLine).named "plain"

def columnCount (f : Format) : Nat := f.columns.length

/-- The column of this name.
mirrors `LogFormat.column_index` -/
def columnNamed? (f : Format) (name : String) : Option Nat := f.columns.findIdx? (· = name)

/-- The number of the group behind a column.
mirrors `LogFormat.column_group` -/
def group? (f : Format) (column : Nat) : Option Nat := f.groups[column]?

/-- Adds a highlight behind the others. One for a column that the format does not have is kept, and
reported.
mirrors `LogFormat.add_highlight` -/
def add (f : Format) (h : Highlight) : Logged Format := do
  Logged.noteIf (f.columnCount ≤ h.column) (.columnOutOfRange h.definition h.column f.name f.columnCount)
  return { f with highlights := f.highlights ++ [h] }

/-- The place of the last highlight, which is the one that was added last.
mirrors the id that `LogFormat.add_highlight` gives -/
def lastId (f : Format) : Nat := f.highlights.length - 1

/-- mirrors `LogFormat.highlight` -/
def highlight? (f : Format) (id : Nat) : Option Highlight := f.highlights[id]?

/-- Takes a highlight out; those behind it move up.
mirrors `LogFormat.remove_highlight` -/
def remove (f : Format) (id : Nat) : Format := { f with highlights := f.highlights.eraseIdx id }

/-- Gives a highlight another definition.
mirrors `LogFormat.highlight_mut`, and `Highlight.set_condition_definition` on it -/
def setDefinition (f : Format) (id : Nat) (definition : String) : Logged Format :=
  match f.highlight? id with
  | none => pure f
  | some h => do return { f with highlights := f.highlights.set id (← h.setDefinition definition) }

end Format

end LogTable

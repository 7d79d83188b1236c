import LogTable.Source.Change
import LogTable.Source.Split

/-!
# Lines in memory

Lines that are kept in memory and changed from outside. Each change gives the lines after it and the notice
of it.
-/
namespace LogTable

/-- Lines by their number.
mirrors `LineProvider` -/
abbrev Lines := Array String

namespace Lines

/-- mirrors `InMemoryLineProvider.from_bytes` -/
def ofBytes (bytes : List UInt8) : Lines := (linesOf bytes).1.toArray

/-- The notice that the lines are now `new`.
mirrors `LineCountChange.new` -/
def changeTo (old new : Lines) : Lines × LineChange := (new, ⟨new.size, old.size⟩)

/-- mirrors `InMemoryLineProvider.append_lines` -/
def extend (lines : Lines) (more : List String) : Lines × LineChange :=
  lines.changeTo (lines ++ more.toArray)

/-- mirrors `InMemoryLineProvider.replace_lines` -/
def replace (lines : Lines) (others : List String) : Lines × LineChange := lines.changeTo others.toArray

/-- mirrors `InMemoryLineProvider.clear` -/
def clear (lines : Lines) : Lines × LineChange := lines.changeTo #[]

end Lines

end LogTable

import LogTable.Color
import LogTable.Condition

/-!
# Highlights

A highlight is a coloring rule: a condition on the text of one column, and the colors of the cell, or of
the whole row, where it holds. The condition is compiled when its definition is set; setting the same
definition again does nothing.
-/
namespace LogTable

/-- What a highlight colors. -/
inductive Scope
  | cell | row
  deriving DecidableEq, Repr

/-- mirrors `Highlight` -/
structure Highlight where
  column : Nat
  scope : Scope := .cell
  definition : String
  condition : Condition
  fg : Option Color := none
  bg : Option Color := none

namespace Highlight

/-- A highlight of cells without colors.
mirrors `Highlight.new` -/
def new (column : Nat) (definition : String) : Logged Highlight := do
  return { column, definition, condition := ← Condition.compile definition }

/-- mirrors `Highlight.set_condition_definition` -/
def setDefinition (h : Highlight) (definition : String) : Logged Highlight :=
  if definition = h.definition then pure h
  else do return { h with definition, condition := ← Condition.compile definition }

/-- The condition holds on a text of the highlight's column.
mirrors `Highlight.matches` -/
def holds (h : Highlight) (text : String) : Bool := h.condition.holds text

end Highlight

end LogTable

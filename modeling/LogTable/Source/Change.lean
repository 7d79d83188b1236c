/-!
# Changes of the number of lines

Whoever holds lines tells of a change by the new and the old number of lines. Growth says that lines were
added behind the others, which are as before; anything else says that every line may be different.
-/
namespace LogTable

/-- mirrors `LineCountChange` -/
structure LineChange where
  new : Nat
  old : Nat
  deriving DecidableEq, Repr

namespace LineChange

/-- What a change does to the lines.
mirrors `ChangeKind` -/
inductive Effect
  | append (start stop : Nat)
  | reset
  deriving DecidableEq, Repr

/-- mirrors `LineCountChange.is_append` -/
def grows (c : LineChange) : Bool := c.old < c.new

/-- mirrors `LineCountChange.kind` -/
def effect (c : LineChange) : Effect := if c.grows then .append c.old c.new else .reset

theorem effect_of_grows {c : LineChange} (h : c.grows = true) : c.effect = .append c.old c.new := if_pos h

theorem effect_eq_reset_iff {c : LineChange} : c.effect = .reset ↔ c.new ≤ c.old := by
  by_cases h : c.old < c.new
  · simp [effect, grows, h]
  · simp [effect, grows, h, Nat.le_of_not_lt h]

end LineChange

end LogTable

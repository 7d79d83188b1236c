import Std.Data.TreeMap
import LogTable.Line

/-!
# The store of rows

Rows that have been looked at, by their number. The store also knows how many rows it covers, whether they
are in it or not. It changes by `insert`, `cover` and `clear` alone.
-/
namespace LogTable

/-- mirrors `RowCache` -/
structure RowStore where
  rows : Std.TreeMap Nat Line := {}
  /-- Rows covered. -/
  covered : Nat := 0

namespace RowStore

/-- mirrors `RowCache.get` -/
def get? (s : RowStore) (row : Nat) : Option Line := s.rows[row]?

/-- mirrors `RowCache.contains` -/
def contains (s : RowStore) (row : Nat) : Bool := s.rows.contains row

/-- Keeps a row, in place of the one before.
mirrors `RowCache.insert` -/
def insert (s : RowStore) (row : Nat) (line : Line) : RowStore :=
  ⟨s.rows.insert row line, max s.covered (row + 1)⟩

/-- mirrors `RowCache.grow_to` -/
def cover (s : RowStore) (rows : Nat) : RowStore := { s with covered := max s.covered rows }

/-- mirrors `RowCache.clear` -/
def clear (_ : RowStore) : RowStore := {}

/-- Rows in the store.
mirrors `RowCache.len` -/
def size (s : RowStore) : Nat := s.rows.size

/-- mirrors `RowCache.is_empty` -/
def isEmpty (s : RowStore) : Bool := s.rows.isEmpty

theorem get?_insert (s : RowStore) (row other : Nat) (line : Line) :
    (s.insert row line).get? other = if row = other then some line else s.get? other := by
  simp [get?, insert, Std.TreeMap.getElem?_insert]

@[simp] theorem get?_cover (s : RowStore) (rows row : Nat) : (s.cover rows).get? row = s.get? row := rfl

@[simp] theorem get?_clear (s : RowStore) (row : Nat) : s.clear.get? row = none := by
  simp [get?, clear]

end RowStore

end LogTable

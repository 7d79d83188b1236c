/-!
# Sets of code points

A set is a list of inclusive ranges. `ofRanges` puts a list in ascending order and joins ranges that
touch, which is the form `compl` relies on; union, intersection and difference are built from these two.

Tables of a standard are kept as text: ranges `lo-hi` or single code points, in hexadecimal, separated
by blanks (`decode`).
-/
namespace LogTable.Unicode

/-- The last code point. -/
def lastCode : Nat := 0x10FFFF

structure CodeSet where
  ranges : List (Nat × Nat)
  deriving DecidableEq, Repr

namespace CodeSet

def empty : CodeSet := ⟨[]⟩

def range (lo hi : Nat) : CodeSet := ⟨[(lo, hi)]⟩

def single (c : Nat) : CodeSet := range c c

def contains (s : CodeSet) (c : Nat) : Bool := s.ranges.any fun r => r.1 ≤ c && c ≤ r.2

def isEmpty (s : CodeSet) : Bool := s.ranges.isEmpty

/-- Joins neighbours that overlap or touch, in a list ordered by lower end. -/
def join : List (Nat × Nat) → List (Nat × Nat)
  | [] => []
  | [r] => [r]
  | (a, b) :: (c, d) :: rest =>
    if c ≤ b + 1 then join ((a, max b d) :: rest) else (a, b) :: join ((c, d) :: rest)
termination_by rs => rs.length

/-- The set of these ranges, ordered and joined. -/
def ofRanges (rs : List (Nat × Nat)) : CodeSet :=
  ⟨join (rs.mergeSort fun a b => a.1 ≤ b.1)⟩

/-- The code points from `start` to `top` that an ordered list of ranges leaves out. -/
def gaps (top start : Nat) : List (Nat × Nat) → List (Nat × Nat)
  | [] => if start ≤ top then [(start, top)] else []
  | (a, b) :: rest =>
    if start < a then (start, a - 1) :: gaps top (b + 1) rest else gaps top (max start (b + 1)) rest

/-- The code points up to `top` outside an ordered set. -/
def complTo (top : Nat) (s : CodeSet) : CodeSet := ⟨gaps top 0 s.ranges⟩

def compl (s : CodeSet) : CodeSet := s.complTo lastCode

def union (s t : CodeSet) : CodeSet := ofRanges (s.ranges ++ t.ranges)

def inter (s t : CodeSet) : CodeSet := (s.compl.union t.compl).compl

def diff (s t : CodeSet) : CodeSet := s.inter t.compl

def symmDiff (s t : CodeSet) : CodeSet := (s.union t).diff (s.inter t)

def unions (sets : List CodeSet) : CodeSet := ofRanges (sets.flatMap (·.ranges))

/-! ## Reading a table -/

/-- The value of a hexadecimal digit. -/
def hexValue? (c : Char) : Option Nat :=
  if '0' ≤ c && c ≤ '9' then some (c.toNat - '0'.toNat)
  else if 'a' ≤ c && c ≤ 'f' then some (c.toNat - 'a'.toNat + 10)
  else if 'A' ≤ c && c ≤ 'F' then some (c.toNat - 'A'.toNat + 10)
  else none

/-- A range being read: the lower end once a dash has been seen, and the number so far. -/
structure Reading where
  low : Option Nat
  number : Option Nat
  done : List (Nat × Nat)

/-- Ends the range being read, if any. -/
def Reading.close (r : Reading) : Reading :=
  match r.low, r.number with
  | some a, some b => ⟨none, none, (a, b) :: r.done⟩
  | none, some b => ⟨none, none, (b, b) :: r.done⟩
  | _, none => ⟨none, none, r.done⟩

def Reading.step (r : Reading) (c : Char) : Reading :=
  match hexValue? c with
  | some d => { r with number := some (r.number.getD 0 * 16 + d) }
  | none => if c = '-' then ⟨r.number, none, r.done⟩ else r.close

/-- The ranges written in a table's text. -/
def decode (text : String) : CodeSet :=
  ⟨(text.toList.foldl Reading.step ⟨none, none, []⟩).close.done.reverse⟩

end CodeSet

end LogTable.Unicode

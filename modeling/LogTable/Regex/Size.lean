import LogTable.Regex.Expr

/-!
# The size of a compiled expression

A compiled pattern may take ten mebibytes. `Expr.bytes` says how many an expression takes, by arithmetic
on its repetition counts, so an expression that is too large is refused before anything is built.

The measure counts an automaton that reads bytes: a state takes 32 bytes, and a class of other than
ASCII characters is the tree of its byte sequences, in which sequences share what they begin with.
-/
namespace LogTable.Regex

open Unicode

/-- Ten mebibytes. -/
def sizeLimit : Nat := 10 * 1024 * 1024

/-! ## Byte sequences of a range -/

/-- The bytes of a code point in UTF-8. -/
def codeBytes (n : Nat) : List Nat :=
  if n < 0x80 then [n]
  else if n < 0x800 then [0xC0 + n / 0x40, 0x80 + n % 0x40]
  else if n < 0x10000 then [0xE0 + n / 0x1000, 0x80 + n / 0x40 % 0x40, 0x80 + n % 0x40]
  else [0xF0 + n / 0x40000, 0x80 + n / 0x1000 % 0x40, 0x80 + n / 0x40 % 0x40, 0x80 + n % 0x40]

/-- Where a range of code points has to be cut for its two ends to differ in one run of bytes: the first
code point of the upper part. -/
def cut? (lo hi : Nat) : Option Nat :=
  if lo ≤ 0xD7FF && 0xD7FF < hi then some 0xE000
  else match [0x7F, 0x7FF, 0xFFFF].find? fun last => lo ≤ last && last < hi with
    | some last => some (last + 1)
    | none =>
      if hi < 0x80 then none
      else [0x40, 0x1000, 0x40000].findSome? fun block =>
        if lo / block = hi / block then none
        else if lo % block ≠ 0 then some ((lo / block + 1) * block)
        else if hi % block ≠ block - 1 then some (hi / block * block)
        else none

/-- Sequences of byte ranges that together stand for the code points from `lo` to `hi`. A range is cut ten
times at most. -/
def byteRanges : Nat → Nat → Nat → List (List (Nat × Nat))
  | 0, _, _ => []
  | fuel + 1, lo, hi =>
    if hi < lo then []
    else match cut? lo hi with
      | some mid => byteRanges fuel lo (if mid = 0xE000 then 0xD7FF else mid - 1) ++ byteRanges fuel mid hi
      | none => [(codeBytes lo).zip (codeBytes hi)]

/-- The length of the common front of two lists. -/
def sharedFront [DecidableEq α] : List α → List α → Nat
  | a :: as, b :: bs => if a = b then sharedFront as bs + 1 else 0
  | _, _ => 0

/-- Nodes of the tree of some sequences in which those with a common front stand together. -/
def treeNodes [DecidableEq α] : List α → List (List α) → Nat
  | _, [] => 0
  | before, s :: rest => (s.length - sharedFront before s) + treeNodes s rest

/-! ## The measure -/

def setBytes (s : CodeSet) : Nat :=
  if s.ranges.all fun r => r.2 < 0x80 then
    match s.ranges with
    | [_] => 32
    | rs => 64 + 8 * rs.length
  else
    let sequences := s.ranges.flatMap fun r => byteRanges 16 r.1 r.2
    64 + 4 * sequences.length + 32 * treeNodes [] sequences

def Expr.bytes : Expr → Nat
  | .empty | .look _ => 32
  | .set s => setBytes s
  | .group _ _ e => e.bytes + 64
  | .cat a b => a.bytes + b.bytes
  | .alt a b => a.bytes + b.bytes + 72
  | .rep min none _ e => (if min ≤ 1 then e.bytes else min * e.bytes) + 64
  | .rep min (some max) _ e => max * e.bytes + (max - min) * 40 + 32

end LogTable.Regex

/-!
# Binary floating point numbers of 64 bits

A number is a sign and a rank. The rank counts the representable magnitudes from zero up: it is the bit
pattern without the sign bit, so subnormal, normal and infinite magnitudes are ordered by it, and rounding
up carries into the exponent by itself.

* `lt` and `le` compare as numbers: the zeros are equal and `nan` is in no relation to anything.
* `ofRatio` rounds a quotient to the nearest number, a tie to the even rank.
-/
namespace LogTable.Number

inductive Binary64
  | nan
  | number (negative : Bool) (rank : Nat)
  deriving DecidableEq, Repr

namespace Binary64

/-- Ranks with one exponent. -/
def binade : Nat := 0x10000000000000

def infiniteRank : Nat := 0x7FF * binade

def infinity (negative : Bool) : Binary64 := .number negative infiniteRank

/-- The bit pattern; `none` for `nan`, of which there are many patterns. -/
def bits? : Binary64 → Option Nat
  | .nan => none
  | .number negative rank => some ((if negative then 0x800 * binade else 0) + rank)

/-- Where the number stands in the order. -/
def key? : Binary64 → Option Int
  | .nan => none
  | .number negative rank => some (if negative then -(rank : Int) else rank)

def lt (a b : Binary64) : Bool :=
  match a.key?, b.key? with
  | some x, some y => x < y
  | _, _ => false

def le (a b : Binary64) : Bool :=
  match a.key?, b.key? with
  | some x, some y => x ≤ y
  | _, _ => false

theorem lt_irrefl (a : Binary64) : a.lt a = false := by
  cases a <;> simp [lt, key?]

theorem le_of_lt {a b : Binary64} (h : a.lt b = true) : a.le b = true := by
  cases a <;> cases b <;> simp_all [lt, le, key?]
  omega

/-! ## Rounding -/

/-- The nearest whole number to `n / d`; a tie goes to the even one. -/
def divNearest (n d : Nat) : Nat :=
  let q := n / d
  let r := n % d
  if 2 * r < d then q
  else if 2 * r > d then q + 1
  else q + q % 2

/-- The exponent of the unit in which `n / d` is written with 53 bits, not below that of the subnormals. -/
def unitExponent (n d : Nat) : Int :=
  let l : Int := (n.log2 : Int) - d.log2
  let isBelow := if 0 ≤ l then n < d * Nat.pow 2 l.toNat else n * Nat.pow 2 (-l).toNat < d
  max (-1074) (if isBelow then l - 53 else l - 52)

/-- The magnitude nearest to `n / d`; too large a quotient is infinite. -/
def rankOfRatio (n d : Nat) : Nat :=
  if n = 0 then 0
  else
    let e := unitExponent n d
    let q := if 0 ≤ e then divNearest n (d * Nat.pow 2 e.toNat) else divNearest (n * Nat.pow 2 (-e).toNat) d
    min infiniteRank ((e + 1074).toNat * binade + q)

def ofRatio (negative : Bool) (n d : Nat) : Binary64 := .number negative (rankOfRatio n d)

end Binary64

end LogTable.Number

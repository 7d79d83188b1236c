import LogTable.Number.Binary64

/-!
# Writing numbers with the fewest digits

`Binary64.shortest` gives the fewest decimal digits that read back as the same number, and of several with
that many digits the ones nearest to it, of two equally near the larger. A grid of `n` digits holds such a
decimal exactly if one of the number's two neighbours on the grid lies in the interval that rounds to the
number, so the grids are tried from the coarsest on; seventeen digits always do.
-/
namespace LogTable.Number.Binary64

/-- A finite magnitude as a whole number of units `2 ^ exponent`. -/
def significand (rank : Nat) : Nat × Int :=
  let field : Nat := rank / binade
  let low := rank % binade
  if field = 0 then (low, -1074) else (binade + low, Int.subNatNat field 1075)

/-- `2 ^ e2 * 10 ^ e10` as a quotient. -/
def powers (e2 e10 : Int) : Nat × Nat :=
  (Nat.pow 2 e2.toNat * Nat.pow 10 e10.toNat, Nat.pow 2 (-e2).toNat * Nat.pow 10 (-e10).toNat)

/-- The number of digits before the point of `m * 2 ^ q`; at most zero when it is below one tenth. -/
def pointPlace (m : Nat) (q : Int) : Int :=
  let (n, d) := powers q 0
  if d ≤ m * n then (Nat.toDigits 10 (m * n / d)).length
  else
    -- the first power of ten that lifts the value to one
    Int.negOfNat (((List.range 400).find? fun k => d ≤ m * n * Nat.pow 10 (k + 1)).getD 0)

/-- The value on the grid of `digits` digits that rounds to `m * 2 ^ q`, if there is one; the nearest of
several, and of two equally near the larger. -/
def onGrid? (m : Nat) (q : Int) (digits : Nat) (place : Int) : Option Nat :=
  -- four quarter units of `m * 2 ^ q`, measured in steps of the grid
  let (n, d) := powers (q - 2) ((digits : Int) - place)
  let value := 4 * m * n
  let below := (4 * m - (if m = binade && q > -1074 then 1 else 2)) * n
  let above := (4 * m + 2) * n
  let inside (g : Nat) : Bool :=
    let x := g * d
    if m % 2 = 0 then below ≤ x && x ≤ above else below < x && x < above
  let g := value / d
  match inside g, inside (g + 1) with
  | true, true => some (if value - g * d < (g + 1) * d - value then g else g + 1)
  | true, false => some g
  | false, true => some (g + 1)
  | false, false => none

/-- The shortest digits, as a whole number, and how many places of it stand behind the point. Digits that
round up to a power of ten make one digit with one place less. -/
def shortest (rank : Nat) : Nat × Int :=
  let (m, q) := significand rank
  let place := pointPlace m q
  ((List.range 17).findSome? fun n =>
    (onGrid? m q (n + 1) place).map fun g =>
      if g = Nat.pow 10 (n + 1) then (g / 10, (n : Int) - place) else (g, (n : Int) + 1 - place)).getD (0, 0)

/-- A decimal without an exponent and with a digit on both sides of its point. -/
def positional (digits : Nat) (behind : Int) : String :=
  let cs := Nat.toDigits 10 digits
  if behind ≤ 0 then .ofList (cs ++ List.replicate (-behind).toNat '0' ++ ['.', '0'])
  else
    let padded := List.replicate (behind.toNat + 1 - cs.length) '0' ++ cs
    let whole := padded.length - behind.toNat
    .ofList (padded.take whole ++ '.' :: padded.drop whole)

/-- Writes a number: without an exponent, and with a point unless it is infinite. -/
def text : Binary64 → String
  | .nan => "NaN"
  | .number negative rank =>
    (if negative then "-" else "") ++
      if rank = infiniteRank then "inf"
      else if rank = 0 then "0.0"
      else
        let (digits, behind) := shortest rank
        positional digits behind

end LogTable.Number.Binary64

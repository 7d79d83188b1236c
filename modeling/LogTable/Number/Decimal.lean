import LogTable.Number.Binary64

/-!
# Reading decimal numbers

A number is an optional sign and then either digits with an optional point among, before or behind them and
an optional exponent, or one of the words `inf`, `infinity` and `nan` in any case. At least one digit has to
stand beside the point. Reading rounds once, from the exact value.
-/
namespace LogTable.Number

/-- A decimal: `coefficient` times ten to the `exponent`. -/
structure Decimal where
  coefficient : Nat
  exponent : Int
  deriving DecidableEq, Repr

namespace Decimal

def digitsValue (cs : List Char) : Nat := cs.foldl (fun n c => n * 10 + (c.toNat - '0'.toNat)) 0

/-- A decimal this large is beyond every finite number, and one this small is nearer to zero than to any
other number; between them the power of ten is worked out. -/
def toBinary64 (negative : Bool) (d : Decimal) : Binary64 :=
  let top := d.exponent + (Nat.toDigits 10 d.coefficient).length
  if d.coefficient = 0 || top < -330 then .number negative 0
  else if top > 320 then .infinity negative
  else if 0 ≤ d.exponent then .ofRatio negative (d.coefficient * Nat.pow 10 d.exponent.toNat) 1
  else .ofRatio negative d.coefficient (Nat.pow 10 (-d.exponent).toNat)

/-- A sign, if there is one, and what follows it. -/
def takeSign : List Char → Bool × List Char
  | '-' :: cs => (true, cs)
  | '+' :: cs => (false, cs)
  | cs => (false, cs)

/-- The exponent after the digits: nothing, or the letter `e`, a sign and at least one digit. -/
def readExponent? : List Char → Option Int
  | [] => some 0
  | c :: cs =>
    if c = 'e' || c = 'E' then
      let (negative, digits) := takeSign cs
      if digits.isEmpty || !digits.all Char.isDigit then none
      else
        let n : Int := digitsValue digits
        some (if negative then -n else n)
    else none

/-- A decimal without a sign. -/
def read? (cs : List Char) : Option Decimal :=
  let whole := cs.takeWhile Char.isDigit
  let rest := cs.dropWhile Char.isDigit
  let (fraction, rest) := match rest with
    | '.' :: r => (r.takeWhile Char.isDigit, r.dropWhile Char.isDigit)
    | r => ([], r)
  if whole.isEmpty && fraction.isEmpty then none
  else (readExponent? rest).map fun e => ⟨digitsValue (whole ++ fraction), e - fraction.length⟩

end Decimal

/-- Reads a number. -/
def Binary64.read? (text : String) : Option Binary64 :=
  let (negative, cs) := Decimal.takeSign text.toList
  match Decimal.read? cs with
  | some d => some (d.toBinary64 negative)
  | none =>
    match String.ofList (cs.map Char.toLower) with
    | "inf" | "infinity" => some (.infinity negative)
    | "nan" => some .nan
    | _ => none

end LogTable.Number

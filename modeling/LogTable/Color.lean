import LogTable.Unicode.Blank
import LogTable.Unicode.CodeSet

/-!
# Colors

A color is written `#rrggbb`, `#rgb` or by a name, in any case and with blanks around it; `#abc` is
short for `#aabbcc`. A pair of digits may be a plus sign and one digit. `Color.text` writes the long form,
which reads back as the same color.
-/
namespace LogTable

open Unicode

/-- mirrors `Color` -/
structure Color where
  red : UInt8
  green : UInt8
  blue : UInt8
  deriving DecidableEq, Repr

namespace Color

/-- The colors that have names.
mirrors `NAMED_COLORS` -/
def palette : List (String × Color) := [
  ("black", ⟨0x00, 0x00, 0x00⟩),
  ("white", ⟨0xFF, 0xFF, 0xFF⟩),
  ("red", ⟨0xCC, 0x00, 0x00⟩),
  ("green", ⟨0x00, 0x99, 0x00⟩),
  ("blue", ⟨0x00, 0x00, 0xCC⟩),
  ("yellow", ⟨0xCC, 0xCC, 0x00⟩),
  ("orange", ⟨0xFF, 0x88, 0x00⟩),
  ("magenta", ⟨0xCC, 0x00, 0xCC⟩),
  ("cyan", ⟨0x00, 0xCC, 0xCC⟩),
  ("gray", ⟨0x88, 0x88, 0x88⟩),
  ("grey", ⟨0x88, 0x88, 0x88⟩)]

/-- The number that two characters write. -/
def pair? (a b : Char) : Option UInt8 := do
  let low ← CodeSet.hexValue? b
  let high ← if a = '+' then some 0 else CodeSet.hexValue? a
  return (high * 16 + low).toUInt8

/-- The number that a character writes for itself and its double. -/
def double? (a : Char) : Option UInt8 := (CodeSet.hexValue? a).map fun d => (d * 0x11).toUInt8

/-- mirrors `Color.parse_hex` -/
def ofDigits? : List Char → Option Color
  | [a, b, c, d, e, f] => do return ⟨← pair? a b, ← pair? c d, ← pair? e f⟩
  | [a, b, c] => do return ⟨← double? a, ← double? b, ← double? c⟩
  | _ => none

def ofName? (name : String) : Option Color := palette.lookup name

/-- mirrors `Color.parse` -/
def parse? (text : String) : Option Color :=
  match trimChars text.toList with
  | '#' :: digits => ofDigits? digits
  | name => ofName? (.ofList (name.map Char.toLower))

def digit (n : Nat) : Char := Nat.digitChar n

/-- Two digits in lower case. -/
def hexPair (n : UInt8) : List Char := [digit (n.toNat / 16), digit (n.toNat % 16)]

/-- mirrors `Color.fmt` -/
def text (c : Color) : String := .ofList ('#' :: (hexPair c.red ++ hexPair c.green ++ hexPair c.blue))

end Color

end LogTable

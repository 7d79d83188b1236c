/-!
# Decoding UTF-8 that may be damaged

`decode` reads bytes one at a time. A byte that cannot go on with the character begun before it ends that
character, which becomes one replacement character however many of its bytes were there, and is then read
afresh. So a byte below `80` always stands for itself, and text cut at such bytes decodes piece by piece.

`decode?` accepts well-formed text only.
-/
namespace LogTable.Text

/-- The character that stands for what cannot be decoded. -/
def replacement : Char := '\uFFFD'

/-- A character begun: the bits so far, the bytes still to come, and the range of the next one. -/
structure Partial where
  value : Nat
  left : Nat
  low : Nat
  high : Nat
  deriving DecidableEq, Repr

/-- What a byte begins: a character, a character of several bytes, or nothing. -/
inductive Lead
  | char (c : Char)
  | begins (p : Partial)
  | bad
  deriving DecidableEq, Repr

/-- The range of the second byte leaves out forms that are too long, surrogates and what lies beyond the
last code point. -/
def lead (b : Nat) : Lead :=
  if b < 0x80 then .char (.ofNat b)
  else if b < 0xC2 then .bad
  else if b < 0xE0 then .begins ⟨b - 0xC0, 1, 0x80, 0xBF⟩
  else if b < 0xF0 then
    .begins ⟨b - 0xE0, 2, if b = 0xE0 then 0xA0 else 0x80, if b = 0xED then 0x9F else 0xBF⟩
  else if b < 0xF5 then
    .begins ⟨b - 0xF0, 3, if b = 0xF0 then 0x90 else 0x80, if b = 0xF4 then 0x8F else 0xBF⟩
  else .bad

/-- A text being decoded: the characters so far, the last first, and the one begun. -/
structure Decoder where
  done : List Char := []
  pending : Option Partial := none
  deriving DecidableEq, Repr

namespace Decoder

def emit (d : Decoder) (c : Char) : Decoder := ⟨c :: d.done, none⟩

/-- Ends the character begun, if any. -/
def flush (d : Decoder) : Decoder := if d.pending.isSome then d.emit replacement else d

/-- Reads a byte that does not go on with a character. -/
def start (d : Decoder) (b : Nat) : Decoder :=
  match lead b with
  | .char c => d.emit c
  | .begins p => { d with pending := some p }
  | .bad => d.emit replacement

def push (d : Decoder) (byte : UInt8) : Decoder :=
  let b := byte.toNat
  match d.pending with
  | none => d.start b
  | some p =>
    if p.low ≤ b && b ≤ p.high then
      let value := p.value * 0x40 + (b - 0x80)
      if p.left ≤ 1 then d.emit (.ofNat value)
      else { d with pending := some ⟨value, p.left - 1, 0x80, 0xBF⟩ }
    else d.flush.start b

def text (d : Decoder) : List Char := d.flush.done.reverse

end Decoder

/-- Decodes any bytes. -/
def decode (bytes : List UInt8) : String := .ofList (bytes.foldl Decoder.push {}).text

/-- Decodes bytes that are well-formed. -/
def decode? (bytes : List UInt8) : Option String := String.fromUTF8? ⟨bytes.toArray⟩

end LogTable.Text

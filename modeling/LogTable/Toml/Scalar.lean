import LogTable.Number.Decimal
import LogTable.Unicode.CodeSet
import LogTable.Toml.Value

/-!
# Strings, numbers and dates in a TOML document

The readers take the text from where they stand and give what they have read with what follows it.
Numbers and dates are told apart by trying the longer forms first: a date or a time, then a number with a
fraction or an exponent, then a whole number. What a form leaves over is for the caller to refuse.
-/
namespace LogTable.Toml

open Number Unicode

abbrev Chars := List Char

/-! ## Strings -/

/-- Characters that may stand in a comment, and in a string that needs no escape for them. -/
def isPlain (c : Char) : Bool := c = '\t' || (' ' ≤ c && c ≠ '\x7f')

/-- Skips spaces and tabs. -/
def skipBlank (cs : Chars) : Chars := cs.dropWhile fun c => c = ' ' || c = '\t'

/-- The rest after an end of line. -/
def newline? : Chars → Option Chars
  | '\n' :: cs => some cs
  | '\r' :: '\n' :: cs => some cs
  | _ => none

/-- Skips blanks and ends of lines. -/
def skipBlankLines : Chars → Chars
  | '\r' :: '\n' :: cs => skipBlankLines cs
  | c :: cs => if c = ' ' || c = '\t' || c = '\n' then skipBlankLines cs else c :: cs
  | [] => []

def charOfCode? (n : Nat) : Option Char := if h : n.isValidChar then some (Char.ofNatAux n h) else none

/-- A character given by some hexadecimal digits. -/
def unicodeEscape? (digits : Nat) (cs : Chars) : Option (Char × Chars) := do
  let ds := cs.take digits
  if ds.length ≠ digits then none
  let values ← ds.mapM CodeSet.hexValue?
  let c ← charOfCode? (values.foldl (fun n d => n * 16 + d) 0)
  return (c, cs.drop digits)

/-- What stands after a backslash. -/
def escape? : Chars → Option (Char × Chars)
  | 'b' :: cs => some ('\x08', cs)
  | 't' :: cs => some ('\t', cs)
  | 'n' :: cs => some ('\n', cs)
  | 'f' :: cs => some ('\x0c', cs)
  | 'r' :: cs => some ('\r', cs)
  | '"' :: cs => some ('"', cs)
  | '\\' :: cs => some ('\\', cs)
  | 'u' :: cs => unicodeEscape? 4 cs
  | 'U' :: cs => unicodeEscape? 8 cs
  | _ => none

/-- After the opening quote of a string on one line; `fuel` bounds its length. -/
def readBasic (fuel : Nat) (cs : Chars) (text : Chars) : Except Fault (String × Chars) :=
  match fuel, cs with
  | fuel + 1, c :: cs =>
    if c = '"' then .ok (.ofList text.reverse, cs)
    else if c = '\\' then
      match escape? cs with
      | some (e, rest) => readBasic fuel rest (e :: text)
      | none => .error .badString
    else if isPlain c then readBasic fuel cs (c :: text)
    else .error .badString
  | _, _ => .error .unclosed

/-- After the opening quote of a string without escapes. -/
def readLiteral (cs : Chars) : Except Fault (String × Chars) :=
  match cs.dropWhile fun c => isPlain c && c ≠ '\'' with
  | '\'' :: rest => .ok (.ofList (cs.takeWhile fun c => isPlain c && c ≠ '\''), rest)
  | _ => .error .badString

/-- The rest after a backslash that ends a line: blanks and ends of lines are skipped. -/
def lineJoin? (cs : Chars) : Option Chars := (newline? (skipBlank cs)).map skipBlankLines

/-- The quotes that close a string of several lines, of which up to two more belong to the text. Gives how
many belong to the text. -/
def closing? (quote : Char) (cs : Chars) : Option (Nat × Chars) :=
  let n := ((cs.take 5).takeWhile (· = quote)).length
  if 3 ≤ n then some (n - 3, cs.drop n) else none

/-- After the opening quotes of a string of several lines. -/
def readLines (quote : Char) (escapes : Bool) (fuel : Nat) (cs : Chars) (text : Chars) :
    Except Fault (String × Chars) :=
  match fuel, cs with
  | fuel + 1, c :: rest =>
    match closing? quote cs, newline? cs with
    | some (n, rest), _ => .ok (.ofList (text.reverse ++ List.replicate n quote), rest)
    | none, some rest => readLines quote escapes fuel rest ('\n' :: text)
    | none, none =>
      if escapes && c = '\\' then
        match escape? rest, lineJoin? rest with
        | some (e, rest), _ => readLines quote escapes fuel rest (e :: text)
        | none, some rest => readLines quote escapes fuel rest text
        | none, none => .error .badString
      else if isPlain c then readLines quote escapes fuel rest (c :: text)
      else .error .badString
  | _, _ => .error .unclosed

/-- A string of any kind. An end of line right after the opening quotes does not belong to the text. -/
def readString (cs : Chars) : Except Fault (String × Chars) :=
  match cs with
  | '"' :: '"' :: '"' :: rest =>
    let rest := (newline? rest).getD rest
    readLines '"' true (rest.length + 1) rest []
  | '\'' :: '\'' :: '\'' :: rest =>
    let rest := (newline? rest).getD rest
    readLines '\'' false (rest.length + 1) rest []
  | '"' :: rest => readBasic (rest.length + 1) rest []
  | '\'' :: rest => readLiteral rest
  | _ => .error .badString

/-! ## Numbers -/

/-- Digits with single underscores between them; underscores are dropped. -/
def moreDigits (p : Char → Bool) : Chars → Chars × Chars
  | '_' :: d :: cs =>
    if p d then
      let (ds, rest) := moreDigits p cs
      (d :: ds, rest)
    else ([], '_' :: d :: cs)
  | c :: cs =>
    if p c then
      let (ds, rest) := moreDigits p cs
      (c :: ds, rest)
    else ([], c :: cs)
  | [] => ([], [])

/-- At least one digit. -/
def digits? (p : Char → Bool) : Chars → Option (Chars × Chars)
  | c :: cs =>
    if p c then
      let (ds, rest) := moreDigits p cs
      some (c :: ds, rest)
    else none
  | [] => none

/-- A decimal whole number without a sign. It begins with zero only if it is zero. -/
def wholeDigits? : Chars → Option (Chars × Chars)
  | '0' :: cs => some (['0'], cs)
  | cs => digits? Char.isDigit cs

/-- Whole numbers have 64 bits. -/
def inRange (n : Int) : Bool := -0x8000000000000000 ≤ n && n < 0x8000000000000000

def radixInteger? (base : Nat) (p : Char → Bool) (cs : Chars) : Option (Value × Chars) := do
  let (ds, rest) ← digits? p cs
  let n : Int := ds.foldl (fun n c => n * base + (CodeSet.hexValue? c).getD 0) 0
  if inRange n then some (.integer n, rest) else none

def integer? (cs : Chars) : Option (Value × Chars) :=
  match cs with
  | '0' :: 'x' :: rest => radixInteger? 16 (fun c => (CodeSet.hexValue? c).isSome) rest
  | '0' :: 'o' :: rest => radixInteger? 8 (fun c => '0' ≤ c && c ≤ '7') rest
  | '0' :: 'b' :: rest => radixInteger? 2 (fun c => c = '0' || c = '1') rest
  | _ => do
    let (negative, rest) := Decimal.takeSign cs
    let (ds, rest) ← wholeDigits? rest
    let n : Int := Decimal.digitsValue ds
    let n := if negative then -n else n
    if inRange n then some (.integer n, rest) else none

/-- A fraction, with its point. -/
def fraction? : Chars → Option (Chars × Chars)
  | '.' :: cs => digits? Char.isDigit cs
  | _ => none

/-- An exponent, with its letter. -/
def exponent? : Chars → Option (Int × Chars)
  | c :: cs =>
    if c = 'e' || c = 'E' then do
      let (negative, rest) := Decimal.takeSign cs
      let (ds, rest) ← digits? Char.isDigit rest
      let n : Int := Decimal.digitsValue ds
      return (if negative then -n else n, rest)
    else none
  | [] => none

/-- A number with a fraction, an exponent or both. One too large for a finite number is refused, unless it
is negative. -/
def decimal? (cs : Chars) : Option (Value × Chars) := do
  let (negative, rest) := Decimal.takeSign cs
  let (whole, rest) ← wholeDigits? rest
  let (places, rest, isFraction) := match fraction? rest with
    | some (ds, rest) => (ds, rest, true)
    | none => ([], rest, false)
  let (power, rest) ← match exponent? rest with
    | some (e, rest) => some (e, rest)
    | none => if isFraction then some (0, rest) else none
  let x := Decimal.toBinary64 negative ⟨Decimal.digitsValue (whole ++ places), power - places.length⟩
  if x = .infinity false then none else some (.float x, rest)

/-- Infinities and what is no number. -/
def specialFloat? (cs : Chars) : Option (Value × Chars) :=
  let (negative, rest) := Decimal.takeSign cs
  match rest with
  | 'i' :: 'n' :: 'f' :: rest => some (.float (.infinity negative), rest)
  | 'n' :: 'a' :: 'n' :: rest => some (.float .nan, rest)
  | _ => none

/-! ## Dates and times -/

/-- A number of exactly so many digits, between two bounds. -/
def field? (digits low high : Nat) (cs : Chars) : Option (Nat × Chars) :=
  let ds := cs.take digits
  let n := Decimal.digitsValue ds
  if ds.length = digits && ds.all Char.isDigit && low ≤ n && n ≤ high then some (n, cs.drop digits)
  else none

def mark? (c : Char) : Chars → Option Chars
  | d :: cs => if d = c then some cs else none
  | [] => none

def daysInMonth (year month : Nat) : Nat :=
  if month = 2 then
    if year % 4 = 0 && (year % 100 ≠ 0 || year % 400 = 0) then 29 else 28
  else if [4, 6, 9, 11].contains month then 30
  else 31

/-- The rest after a date. -/
def date? (cs : Chars) : Option Chars := do
  let (year, cs) ← field? 4 0 9999 cs
  let (month, cs) ← field? 2 1 12 (← mark? '-' cs)
  let (_, cs) ← field? 2 1 (daysInMonth year month) (← mark? '-' cs)
  return cs

/-- The rest after a time of day. A minute may have a leap second. -/
def time? (cs : Chars) : Option Chars := do
  let (_, cs) ← field? 2 0 23 cs
  let (_, cs) ← field? 2 0 59 (← mark? ':' cs)
  let (_, cs) ← field? 2 0 60 (← mark? ':' cs)
  match mark? '.' cs with
  | none => return cs
  | some rest =>
    if (rest.head?.map Char.isDigit).getD false then return rest.dropWhile Char.isDigit else return cs

/-- The rest after an offset from universal time. -/
def offset? : Chars → Option Chars
  | c :: cs =>
    if c = 'Z' || c = 'z' then some cs
    else if c = '+' || c = '-' then do
      let (_, cs) ← field? 2 0 23 cs
      let (_, cs) ← field? 2 0 59 (← mark? ':' cs)
      return cs
    else none
  | [] => none

/-- The rest after a date, a time, or both with or without an offset. -/
def datetime? (cs : Chars) : Option Chars :=
  match date? cs with
  | none => time? cs
  | some rest =>
    let clock? : Option Chars := match rest with
      | c :: cs => if c = 'T' || c = 't' || c = ' ' then time? cs else none
      | [] => none
    some (match clock? with
      | some rest => (offset? rest).getD rest
      | none => rest)

/-- A number or a date. -/
def readNumber (cs : Chars) : Except Fault (Value × Chars) :=
  match datetime? cs with
  | some rest => .ok (.datetime, rest)
  | none =>
    match (decimal? cs).orElse fun _ => (specialFloat? cs).orElse fun _ => integer? cs with
    | some result => .ok result
    | none => .error .badNumber

/-- A value that holds no others. -/
def readScalar (cs : Chars) : Except Fault (Value × Chars) :=
  match cs with
  | [] => .error .badValue
  | c :: _ =>
    if c = '"' || c = '\'' then (readString cs).map fun (s, rest) => (.string s, rest)
    else match cs with
    | 't' :: 'r' :: 'u' :: 'e' :: rest => .ok (.boolean true, rest)
    | 'f' :: 'a' :: 'l' :: 's' :: 'e' :: rest => .ok (.boolean false, rest)
    | _ => if c = '+' || c = '-' || c = 'i' || c = 'n' || c.isDigit then readNumber cs else .error .badValue

end LogTable.Toml

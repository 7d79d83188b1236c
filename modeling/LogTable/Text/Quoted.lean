import LogTable.Unicode.Query

/-!
# Quoted text

A text in quotes on one line, from which it can be read off again: quotes, backslashes and whatever cannot
be seen are escaped. Characters that cannot be seen are those that are not assigned, private, control and
format characters, blanks other than the space, and marks, which would combine with what stands before.
-/
namespace LogTable.Text

open Unicode

def unseen : CodeSet :=
  .unions [category "Cc", category "Cf", category "Cn", category "Co", category "Zl", category "Zp",
    (category "Zs").diff (.single 0x20), (binarySet? "graphemeextend").getD .empty]

def escapeChar (c : Char) : List Char :=
  match c with
  | '\x00' => ['\\', '0']
  | '\t' => ['\\', 't']
  | '\r' => ['\\', 'r']
  | '\n' => ['\\', 'n']
  | '\\' => ['\\', '\\']
  | '"' => ['\\', '"']
  | c =>
    if 0x20 ≤ c.toNat && c.toNat < 0x7F then [c]
    else if unseen.contains c.toNat then '\\' :: 'u' :: '\x7b' :: (Nat.toDigits 16 c.toNat ++ ['\x7d']) else [c]

/-- The text in quotes. -/
def quote (s : String) : String := .ofList ('"' :: (s.toList.flatMap escapeChar ++ ['"']))

/-- A list in brackets, its items separated by commas. -/
def bracketed (items : List String) : String := "[" ++ ", ".intercalate items ++ "]"

end LogTable.Text

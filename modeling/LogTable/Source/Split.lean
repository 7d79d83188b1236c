import LogTable.Text.Utf8

/-!
# Splitting bytes into lines

A line ends at a newline byte; bytes behind the last newline are a line too. One carriage return at the
end of a line does not belong to it. Lines are decoded one by one, whatever their bytes are.

`linesOf` also says whether the bytes are complete: there are none, or the last is a newline.
-/
namespace LogTable

def newline : UInt8 := 10

def carriageReturn : UInt8 := 13

/-- Puts a byte in front of some lines. -/
def consByte (b : UInt8) (lines : List (List UInt8)) : List (List UInt8) :=
  if b = newline then [] :: lines
  else match lines with
    | [] => [[b]]
    | line :: rest => (b :: line) :: rest

/-- The bytes of each line, without its newline. -/
def cutLines (bytes : List UInt8) : List (List UInt8) := bytes.foldr consByte []

/-- Drops one carriage return at the end. -/
def dropReturn (line : List UInt8) : List UInt8 :=
  if line.getLast? = some carriageReturn then line.dropLast else line

/-- The text of a line.
mirrors `decode_line` -/
def lineText (line : List UInt8) : String := Text.decode (dropReturn line)

def isComplete (bytes : List UInt8) : Bool := bytes.getLast?.all (· = newline)

/-- The lines of some bytes, and whether the bytes are complete.
mirrors `split_lines` -/
def linesOf (bytes : List UInt8) : List String × Bool :=
  ((cutLines bytes).map lineText, isComplete bytes)

/-- The bytes up to the last newline, which is among them.
mirrors the cut at the last newline in `FileLineProvider.refresh` -/
def completePart (bytes : List UInt8) : List UInt8 :=
  (bytes.reverse.dropWhile (· ≠ newline)).reverse

end LogTable

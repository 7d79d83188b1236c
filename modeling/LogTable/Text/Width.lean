import LogTable.Unicode.Wide
import LogTable.Text.Grapheme

/-!
# How many cells a text takes

A terminal draws text in cells. Marks and joiners take none, East Asian wide characters two, all others
one, control characters among them. A grapheme cluster takes the cells of its characters, except that a
sequence of joined pictures takes two, and that a variation selector decides between the two ways of
drawing a picture.
-/
namespace LogTable.Text

open Unicode

def wide : CodeSet := .decode wideRanges

/-- Marks, ignorable characters, and the vowels and finals of Hangul syllables. -/
def zeroWidth : CodeSet :=
  .unions [(binarySet? "graphemeextend").getD .empty, (binarySet? "defaultignorablecodepoint").getD .empty,
    ⟨[(0x1160, 0x11FF), (0xD7B0, 0xD7C6), (0xD7CB, 0xD7FB)]⟩]

def emoji : CodeSet := (binarySet? "emoji").getD .empty
def emojiPresentation : CodeSet := (binarySet? "emojipresentation").getD .empty
def emojiModifier : CodeSet := (binarySet? "emojimodifier").getD .empty

/-- The cells of one character. The soft hyphen and the filler of a syllable's start are visible. -/
def charWidth (c : Char) : Nat :=
  let n := c.toNat
  if n < 0x300 then 1
  else if isIdeograph n then 2
  else if n = 0x115F then 2
  else if zeroWidth.contains n then 0
  else if wide.contains n then 2
  else 1

/-- The cells of the first character of a cluster, which a variation selector may follow. -/
def baseWidth (c : Char) (next : Option Char) : Nat :=
  if next = some '\uFE0F' && emoji.contains c.toNat then 2
  else if next = some '\uFE0E' && emojiPresentation.contains c.toNat then 1
  else charWidth c

def clusterWidth : List Char → Nat
  | [] => 0
  | ['\r', '\n'] => 1
  | c :: rest =>
    if rest.any isPicture && isPicture c then 2
    else
      baseWidth c rest.head? +
        rest.foldl (fun sum d => sum + if emojiModifier.contains d.toNat then 0 else charWidth d) 0

/-- The cells of a text. -/
def width (cs : List Char) : Nat := (graphemes cs).foldl (fun sum c => sum + clusterWidth c) 0

end LogTable.Text

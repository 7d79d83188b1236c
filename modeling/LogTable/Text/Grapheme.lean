import LogTable.Unicode.Query
import LogTable.Unicode.Wide

/-!
# Grapheme clusters

`graphemes` cuts a text into the pieces that are shown as one character: a base with its marks, a pair of
regional indicators, a syllable of Hangul letters, a sequence of pictures joined by zero-width joiners.
The pieces are in order and together they are the text.
-/
namespace LogTable.Text

open Unicode

/-- The role of a character in cutting a text. -/
inductive BreakClass
  | cr | lf | control | extend | joiner | regional | prepend | spacing | leading | vowel | trailing
  | openSyllable | closedSyllable | other
  deriving DecidableEq, Repr

def breakSet (name : String) : CodeSet := (setOf? graphemeBreaks name).getD .empty

def controlSet : CodeSet := breakSet "control"
def extendSet : CodeSet := breakSet "extend"
def prependSet : CodeSet := breakSet "prepend"
def spacingSet : CodeSet := breakSet "spacingmark"

/-- Characters shown as pictures. -/
def pictographic : CodeSet := (binarySet? "extendedpictographic").getD .empty

/-- The character is shown as a picture; the first of these is the copyright sign. -/
def isPicture (c : Char) : Bool :=
  0xA9 ≤ c.toNat && !isIdeograph c.toNat && pictographic.contains c.toNat

def BreakClass.ofChar (c : Char) : BreakClass :=
  let n := c.toNat
  if n = 0x0D then .cr
  else if n = 0x0A then .lf
  else if n < 0x20 || n = 0x7F then .control
  else if n < 0x7F then .other
  else if n = 0x200D then .joiner
  else if 0x1F1E6 ≤ n && n ≤ 0x1F1FF then .regional
  else if (0x1100 ≤ n && n ≤ 0x115F) || (0xA960 ≤ n && n ≤ 0xA97C) then .leading
  else if (0x1160 ≤ n && n ≤ 0x11A7) || (0xD7B0 ≤ n && n ≤ 0xD7C6) then .vowel
  else if (0x11A8 ≤ n && n ≤ 0x11FF) || (0xD7CB ≤ n && n ≤ 0xD7FB) then .trailing
  else if 0xAC00 ≤ n && n ≤ 0xD7A3 then if (n - 0xAC00) % 28 = 0 then .openSyllable else .closedSyllable
  else if isIdeograph n then .other
  else if extendSet.contains n then .extend
  else if spacingSet.contains n then .spacing
  else if controlSet.contains n then .control
  else if prependSet.contains n then .prepend
  else .other

/-- How far the end of a cluster has come towards a sequence of pictures. -/
inductive PictureState
  | none
  /-- A picture and its marks. -/
  | picture
  /-- A joiner after those. -/
  | joined
  deriving DecidableEq, Repr

/-- The cluster being read: its characters, the last first, and what its end means for the next one. -/
structure Cluster where
  chars : List Char := []
  last : BreakClass := .other
  picture : PictureState := .none
  /-- An odd number of regional indicators stands at the end. -/
  oddRegional : Bool := false

namespace Cluster

/-- Whether `c`, of class `k`, belongs to the cluster. -/
def joins (s : Cluster) (c : Char) (k : BreakClass) : Bool :=
  match s.last, k with
  | .cr, .lf => true
  | .cr, _ | .lf, _ | .control, _ => false
  | _, .cr | _, .lf | _, .control => false
  | .leading, .leading | .leading, .vowel | .leading, .openSyllable | .leading, .closedSyllable => true
  | .openSyllable, .vowel | .vowel, .vowel | .openSyllable, .trailing | .vowel, .trailing => true
  | .closedSyllable, .trailing | .trailing, .trailing => true
  | _, .extend | _, .joiner | _, .spacing => true
  | .prepend, _ => true
  | .regional, .regional => s.oddRegional
  | _, _ => s.picture = .joined && isPicture c

def pictureAfter (s : Cluster) (c : Char) (k : BreakClass) : PictureState :=
  match s.picture, k with
  | .picture, .extend => .picture
  | .picture, .joiner => .joined
  | _, _ => if isPicture c then .picture else .none

def push (s : Cluster) (c : Char) (k : BreakClass) : Cluster where
  chars := c :: s.chars
  last := k
  picture := s.pictureAfter c k
  oddRegional := k = .regional && !s.oddRegional

end Cluster

/-- The clusters of `s` followed by `cs`. -/
def graphemesFrom (s : Cluster) : List Char → List (List Char)
  | [] => if s.chars.isEmpty then [] else [s.chars.reverse]
  | c :: cs =>
    let k := BreakClass.ofChar c
    if s.chars.isEmpty || s.joins c k then graphemesFrom (s.push c k) cs
    else s.chars.reverse :: graphemesFrom (Cluster.push {} c k) cs

def graphemes (cs : List Char) : List (List Char) := graphemesFrom {} cs

theorem flatten_graphemesFrom (s : Cluster) (cs : List Char) :
    (graphemesFrom s cs).flatten = s.chars.reverse ++ cs := by
  induction cs generalizing s with
  | nil =>
    by_cases h : s.chars = [] <;> simp [graphemesFrom, h]
  | cons c cs ih =>
    simp only [graphemesFrom]
    split <;> simp [ih, Cluster.push]

theorem flatten_graphemes (cs : List Char) : (graphemes cs).flatten = cs := by
  simp [graphemes, flatten_graphemesFrom]

end LogTable.Text

import LogTable.Unicode.CodeSet
import LogTable.Unicode.Category
import LogTable.Unicode.Script
import LogTable.Unicode.Binary
import LogTable.Unicode.Age
import LogTable.Unicode.Segment
import LogTable.Unicode.CaseFold

/-!
# Looking up properties by name

Names are matched loosely: case, blanks, hyphens, underscores and a leading `is` do not count.
A lone name is first a yes-or-no property, then a general category, then a script; a pair of
a property name and a value names the property explicitly.

`closeCase` adds to a set every code point that differs from a member in case only.
-/
namespace LogTable.Unicode

/-- What of a name counts when names are compared. -/
def looseName (name : String) : String :=
  let cs := name.toList
  let isPrefixed := match cs with
    | a :: b :: _ => (a = 'i' || a = 'I') && (b = 's' || b = 'S')
    | _ => false
  let body := if isPrefixed then cs.drop 2 else cs
  let kept := (body.filter fun c => c.toNat < 128 && c ≠ ' ' && c ≠ '_' && c ≠ '-').map Char.toLower
  -- `isc` abbreviates a property that is not a category, so the `is` of `isc` is kept.
  if isPrefixed && kept = ['c'] then "isc" else String.ofList kept

/-- The entry that carries a name, given in loose form. -/
def row? (table : List (List String × String)) (loose : String) : Option String :=
  (table.find? fun e => e.1.any fun n => looseName n = loose).map (·.2)

def setOf? (table : List (List String × String)) (loose : String) : Option CodeSet :=
  (row? table loose).map CodeSet.decode

/-! ## General categories -/

/-- Categories of one letter, and the cased letters: each is the union of the listed categories. -/
def categoryGroups : List (List String × List String) := [
  (["C", "Other"], ["Cc", "Cf", "Cn", "Co"]),
  (["L", "Letter"], ["Ll", "Lm", "Lo", "Lt", "Lu"]),
  (["LC", "Cased_Letter"], ["Ll", "Lt", "Lu"]),
  (["M", "Mark", "Combining_Mark"], ["Mc", "Me", "Mn"]),
  (["N", "Number"], ["Nd", "Nl", "No"]),
  (["P", "Punctuation", "Punct"], ["Pc", "Pd", "Pe", "Pf", "Pi", "Po", "Ps"]),
  (["S", "Symbol"], ["Sc", "Sk", "Sm", "So"]),
  (["Z", "Separator"], ["Zl", "Zp", "Zs"])]

/-- The code points of one two-letter category. -/
def category (short : String) : CodeSet := (setOf? categories (looseName short)).getD .empty

def categorySet? (loose : String) : Option CodeSet :=
  if loose = "any" then some (.range 0 lastCode)
  else if loose = "assigned" then some (category "Cn").compl
  else if loose = "ascii" then some (.range 0 0x7F)
  else match categoryGroups.find? fun g => g.1.any fun n => looseName n = loose with
    | some g => some (.unions (g.2.map category))
    | none => setOf? categories loose

/-! ## Other properties -/

def binarySet? (loose : String) : Option CodeSet :=
  (setOf? binaryAtoI loose).orElse fun _ => setOf? binaryJtoZ loose

/-- The code points assigned in this version or before it. -/
def ageSet? (loose : String) : Option CodeSet :=
  let upTo := ages.takeWhile fun e => !(e.1.any fun n => looseName n = loose)
  (setOf? ages loose).map fun s => .unions (s :: upTo.map fun e => CodeSet.decode e.2)

/-- The set that a lone name stands for. The abbreviations `sc`, `lc` and `cf` are categories. -/
def namedSet? (name : String) : Option CodeSet :=
  let loose := looseName name
  let binary := if loose = "cf" || loose = "sc" || loose = "lc" then none else binarySet? loose
  (binary.orElse fun _ => categorySet? loose).orElse fun _ => setOf? scripts loose

/-- The set of code points whose `property` is `value`. -/
def valuedSet? (property value : String) : Option CodeSet :=
  let loose := looseName value
  match looseName property with
  | "gc" | "generalcategory" => categorySet? loose
  | "sc" | "script" => setOf? scripts loose
  | "scx" | "scriptextensions" => setOf? scriptExtensions loose
  | "age" => ageSet? loose
  | "gcb" | "graphemeclusterbreak" => setOf? graphemeBreaks loose
  | "wb" | "wordbreak" => setOf? wordBreaks loose
  | "sb" | "sentencebreak" => setOf? sentenceBreaks loose
  | _ => none

/-! ## The classes of digits, blanks and word characters -/

def digits : CodeSet := category "Nd"

def blanks : CodeSet :=
  ⟨[(9, 13), (0x20, 0x20), (0x85, 0x85), (0xA0, 0xA0), (0x1680, 0x1680), (0x2000, 0x200A),
    (0x2028, 0x2029), (0x202F, 0x202F), (0x205F, 0x205F), (0x3000, 0x3000)]⟩

def alphabetic : CodeSet := (binarySet? "alphabetic").getD .empty

/-- Letters, marks, digits, connecting punctuation and the join controls. -/
def wordCharacters : CodeSet :=
  .unions [alphabetic, category "Mc", category "Me", category "Mn", digits, category "Pc",
    (binarySet? "joincontrol").getD .empty]

/-- Alphabetic characters and numbers of every kind. -/
def alphanumeric : CodeSet := .unions [alphabetic, digits, category "Nl", category "No"]

/-! ## Case -/

/-- Reads orbits of hexadecimal code points separated by semicolons. -/
def decodeOrbits (text : String) : List (List Nat) :=
  let step (s : Option Nat × List Nat × List (List Nat)) (c : Char) :=
    let (n, orbit, all) := s
    match CodeSet.hexValue? c with
    | some d => (some (n.getD 0 * 16 + d), orbit, all)
    | none =>
      let orbit := match n with | some n => n :: orbit | none => orbit
      if c = ';' then (none, [], orbit :: all) else (none, orbit, all)
  (((text ++ ";").toList.foldl step (none, [], [])).2.2).reverse

def orbits : List (List Nat) := decodeOrbits caseOrbits

/-- The least set that holds `s` and, with a code point, all that differ from it in case only. -/
def closeCase (s : CodeSet) : CodeSet :=
  let hit := orbits.filter fun orbit => orbit.any s.contains
  s.union (.ofRanges (hit.flatten.map fun c => (c, c)))

/-- The same for ASCII letters alone. -/
def closeAsciiCase (s : CodeSet) : CodeSet :=
  let lower := s.inter (.range 0x61 0x7A)
  let upper := s.inter (.range 0x41 0x5A)
  .unions [s, ⟨lower.ranges.map fun r => (r.1 - 32, r.2 - 32)⟩,
    ⟨upper.ranges.map fun r => (r.1 + 32, r.2 + 32)⟩]

end LogTable.Unicode

import LogTable.Regex.Program

/-!
# Searching a text

A search keeps the places of a program that can be reached with the characters read so far, in order of
preference; a place is kept once, for the first to get there, so the work for a character is bounded by the
size of the program. While no match has been found a new attempt starts at every place of the text, behind
all that started earlier: the leftmost match wins, and of several that start together the preferred one.

* `spread` follows the instructions that read no character.
* `advance` reads one character.
* `search` runs to the end of the text and gives the slots of the match.
-/
namespace LogTable.Regex

open Unicode

/-- A place between two characters of a text, and the characters beside it. -/
structure Place where
  index : Nat
  before : Option Char
  after : Option Char

/-- Word characters: all of them, or those in ASCII. -/
def isWord (unicode : Bool) (c : Option Char) : Bool :=
  c.any fun c => (if unicode then wordCharacters else AsciiClass.word.set).contains c.toNat

def Look.holds (at' : Place) : Look → Bool
  | .start => at'.before.isNone
  | .stop => at'.after.isNone
  | .lineStart => at'.before.all (· = '\n')
  | .lineEnd => at'.after.all (· = '\n')
  | .crlfStart => at'.before.all fun c => c = '\n' || (c = '\r' && at'.after ≠ some '\n')
  | .crlfEnd => at'.after.all fun c => c = '\r' || (c = '\n' && at'.before ≠ some '\r')
  | .boundary u => isWord u at'.before != isWord u at'.after
  | .notBoundary u => isWord u at'.before == isWord u at'.after
  | .wordStart u => !isWord u at'.before && isWord u at'.after
  | .wordEnd u => isWord u at'.before && !isWord u at'.after
  | .wordStartHalf u => !isWord u at'.before
  | .wordEndHalf u => !isWord u at'.after

/-- Places noted so far: groups take two slots each, for their start and their end. -/
abbrev Slots := List (Option Nat)

structure Thread where
  pc : Nat
  slots : Slots

/-- Follows `waiting` to the instructions that read a character, which come out in order of preference.
A thread that accepts ends the walk: what was waiting behind it is less preferred. -/
def Program.spread (p : Program) (place : Place) :
    Nat → Array Bool → List Thread → List Thread → List Thread × Option Slots
  | 0, _, _, done => (done.reverse, none)
  | _ + 1, _, [], done => (done.reverse, none)
  | fuel + 1, seen, t :: waiting, done =>
    if seen.getD t.pc true then p.spread place fuel seen waiting done
    else
      let seen := seen.set! t.pc true
      match p.code[t.pc]? with
      | none => p.spread place fuel seen waiting done
      | some .accept => (done.reverse, some t.slots)
      | some (.one _ _) => p.spread place fuel seen waiting (t :: done)
      | some (.split a b) => p.spread place fuel seen (⟨a, t.slots⟩ :: ⟨b, t.slots⟩ :: waiting) done
      | some (.look l next) =>
        if l.holds place then p.spread place fuel seen (⟨next, t.slots⟩ :: waiting) done
        else p.spread place fuel seen waiting done
      | some (.save slot next) =>
        p.spread place fuel seen (⟨next, t.slots.set slot (some place.index)⟩ :: waiting) done

/-- Each instruction is entered once and leads to two others at most, which bounds the walk. -/
def Program.follow (p : Program) (place : Place) (waiting : List Thread) : List Thread × Option Slots :=
  p.spread place (2 * p.code.size + waiting.length + 1) (Array.replicate p.code.size false) waiting []

/-- The instruction reads `c`; gives the one after it. -/
def Inst.read? (c : Char) : Inst → Option Nat
  | .one set next => if set.contains c.toNat then some next else none
  | _ => none

/-- The threads that can read `c`. -/
def Program.advance (p : Program) (c : Char) (threads : List Thread) : List Thread :=
  threads.filterMap fun t => (p.code[t.pc]?.bind (·.read? c)).map fun next => ⟨next, t.slots⟩

/-- A search under way: the threads waiting at a place, and the slots of the match found so far. -/
structure Progress where
  waiting : List Thread
  found : Option Slots

/-- The threads that go on from a place and what has been found there. An attempt starts at the place if
there has been no match. -/
def Program.visit (p : Program) (slots : Nat) (place : Place) (s : Progress) : Progress :=
  let waiting :=
    if s.found.isNone then s.waiting ++ [⟨p.entry, List.replicate slots none⟩] else s.waiting
  let (live, hit) := p.follow place waiting
  ⟨live, hit.orElse fun _ => s.found⟩

/-- Searches on from place `index`, behind the character `before`. -/
def Program.searchFrom (p : Program) (slots : Nat) :
    Nat → Option Char → Progress → List Char → Option Slots
  | index, before, s, [] => (p.visit slots ⟨index, before, none⟩ s).found
  | index, before, s, c :: rest =>
    let s := p.visit slots ⟨index, before, some c⟩ s
    if s.waiting.isEmpty && s.found.isSome then s.found
    else p.searchFrom slots (index + 1) (some c) { s with waiting := p.advance c s.waiting } rest

/-- The slots of the leftmost match. -/
def Program.search (p : Program) (slots : Nat) (text : List Char) : Option Slots :=
  p.searchFrom slots 0 none ⟨[], none⟩ text

end LogTable.Regex

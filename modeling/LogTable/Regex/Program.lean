import LogTable.Regex.Expr

/-!
# Compiled expressions

A program is an array of instructions, each naming the ones that may follow. It is built from its end
backwards: `Expr.emit` adds the instructions of an expression in front of those that come after a match
of it, and gives the place to start from.

A `split` prefers its first branch, so the order of branches is the order in which matches are preferred:
the left alternative before the right, and for a repetition another round before leaving, or after it
when it is not greedy. A body that may match the empty text is repeated as "at least once, or not at
all", so that a round of nothing cannot hide a preferred way on.
-/
namespace LogTable.Regex

open Unicode

inductive Inst
  /-- One character of the set. -/
  | one (set : CodeSet) (next : Nat)
  | split (first second : Nat)
  | look (l : Look) (next : Nat)
  /-- Notes the place in a slot. -/
  | save (slot next : Nat)
  | accept
  deriving DecidableEq, Repr

abbrev Code := Array Inst

/-- Adds an instruction and gives its place. -/
def Code.emit (code : Code) (i : Inst) : Nat × Code := (code.size, code.push i)

def splitOf (greedy : Bool) (again leave : Nat) : Inst :=
  if greedy then .split again leave else .split leave again

/-- Rounds of `body` in a row. -/
def emitTimes (body : Nat → Code → Nat × Code) (n next : Nat) (code : Code) : Nat × Code :=
  Nat.repeat (fun s => body s.1 s.2) n (next, code)

/-- Up to `n` rounds of `body`, each able to leave for `next`. -/
def emitUpTo (body : Nat → Code → Nat × Code) (greedy : Bool) (n next : Nat) (code : Code) : Nat × Code :=
  Nat.repeat (fun s =>
    let (entry, code) := body s.1 s.2
    code.emit (splitOf greedy entry next)) n (next, code)

/-- Rounds of `body` without end. Gives the place that decides on another round, the place of the body and
the code. -/
def emitLoop (body : Nat → Code → Nat × Code) (greedy : Bool) (next : Nat) (code : Code) :
    Nat × Nat × Code :=
  let (again, code) := code.emit (.split next next)
  let (entry, code) := body again code
  (again, entry, code.set! again (splitOf greedy entry next))

def Expr.emit : Expr → Nat → Code → Nat × Code
  | .empty, next, code => (next, code)
  | .set s, next, code => code.emit (.one s next)
  | .look l, next, code => code.emit (.look l next)
  | .group i _ e, next, code =>
    let (stop, code) := code.emit (.save (2 * i + 1) next)
    let (entry, code) := e.emit stop code
    code.emit (.save (2 * i) entry)
  | .cat a b, next, code =>
    let (middle, code) := b.emit next code
    a.emit middle code
  | .alt a b, next, code =>
    let (second, code) := b.emit next code
    let (first, code) := a.emit next code
    code.emit (.split first second)
  | .rep min none greedy e, next, code =>
    let (again, entry, code) := emitLoop e.emit greedy next code
    match min with
    | 0 => if e.isNullable then code.emit (splitOf greedy entry next) else (again, code)
    | rounds + 1 => emitTimes e.emit rounds entry code
  | .rep min (some max) greedy e, next, code =>
    let (optional, code) := emitUpTo e.emit greedy (max - min) next code
    emitTimes e.emit min optional code

/-- A compiled expression: where it starts and its instructions. -/
structure Program where
  entry : Nat
  code : Code
  deriving DecidableEq, Repr

/-- The program of an expression, which ends by accepting. -/
def Expr.program (e : Expr) : Program :=
  let (last, code) := Code.emit #[] .accept
  let (entry, code) := e.emit last code
  ⟨entry, code⟩

end LogTable.Regex

import LogTable.Unicode.Query
import LogTable.Regex.Syntax
import LogTable.Regex.Fault

/-!
# Regular expressions with their flags applied

`Expr` is what a pattern matches: sets of characters, assertions about the place between two characters,
and their combinations. `Ast.toExpr` applies the flags, which hold from where they are set to the end of
the innermost group, across alternatives.

Without the Unicode flag a class is a set of bytes, and one that holds a byte above `7F` is refused,
because the pattern could then match a part of a character.
-/
namespace LogTable.Regex

open Unicode

/-- What can be asserted about a place. -/
inductive Look
  | start | stop
  | lineStart | lineEnd
  | crlfStart | crlfEnd
  | boundary (unicode : Bool) | notBoundary (unicode : Bool)
  | wordStart (unicode : Bool) | wordEnd (unicode : Bool)
  | wordStartHalf (unicode : Bool) | wordEndHalf (unicode : Bool)
  deriving DecidableEq, Repr

inductive Expr
  | empty
  | set (s : CodeSet)
  | look (l : Look)
  | group (index : Nat) (name : Option String) (e : Expr)
  | cat (a b : Expr)
  | alt (a b : Expr)
  | rep (min : Nat) (max : Option Nat) (greedy : Bool) (e : Expr)
  deriving Repr

namespace Expr

/-- Every match is of the empty text. -/
def isBlankOnly : Expr → Bool
  | .empty | .look _ => true
  | .set _ => false
  | .group _ _ e => e.isBlankOnly
  | .cat a b | .alt a b => a.isBlankOnly && b.isBlankOnly
  | .rep _ max _ e => max = some 0 || e.isBlankOnly

/-- Some match may be of the empty text. -/
def isNullable : Expr → Bool
  | .empty | .look _ => true
  | .set _ => false
  | .group _ _ e => e.isNullable
  | .cat a b => a.isNullable && b.isNullable
  | .alt a b => a.isNullable || b.isNullable
  | .rep min _ _ e => min = 0 || e.isNullable

/-- A repetition. One of an expression that matches nothing but the empty text is done once at most, and
one of zero times drops the expression with the groups in it. -/
def rep' (min : Nat) (max : Option Nat) (greedy : Bool) (e : Expr) : Expr :=
  let (min, max) :=
    if e.isBlankOnly then (Nat.min min 1, some (Nat.min (max.getD 1) 1)) else (min, max)
  if min = 0 ∧ max = some 0 then .empty
  else if min = 1 ∧ max = some 1 then e
  else .rep min max greedy e

/-- The capture groups in an expression: number and name. -/
def groups : Expr → List (Nat × Option String)
  | .group i name e => (i, name) :: e.groups
  | .cat a b | .alt a b => a.groups ++ b.groups
  | .rep _ _ _ e => e.groups
  | _ => []

end Expr

/-! ## Flags -/

structure Flags where
  ignoreCase : Bool := false
  multiLine : Bool := false
  dotAll : Bool := false
  swapGreed : Bool := false
  unicode : Bool := true
  crlf : Bool := false

def Flags.apply (f : Flags) (c : FlagChange) : Flags where
  ignoreCase := c.ignoreCase.getD f.ignoreCase
  multiLine := c.multiLine.getD f.multiLine
  dotAll := c.dotAll.getD f.dotAll
  swapGreed := c.swapGreed.getD f.swapGreed
  unicode := c.unicode.getD f.unicode
  crlf := c.crlf.getD f.crlf

/-! ## Sets -/

/-- A set under construction: of bytes or of code points. -/
def negate (f : Flags) (s : CodeSet) : CodeSet := if f.unicode then s.compl else s.complTo 0xFF

def fold (f : Flags) (s : CodeSet) : CodeSet :=
  if f.ignoreCase then (if f.unicode then closeCase s else closeAsciiCase s) else s

/-- A set of bytes may only hold ASCII. -/
def checkSet (f : Flags) (s : CodeSet) : Except Fault CodeSet :=
  if !f.unicode && s.ranges.any fun r => r.2 > 0x7F then .error .notUtf8 else .ok s

/-- Case is ignored first and the set negated after that. -/
def foldAndNegate (f : Flags) (negated : Bool) (s : CodeSet) : Except Fault CodeSet :=
  let s := fold f s
  checkSet f (if negated then negate f s else s)

def AsciiClass.set : AsciiClass → CodeSet
  | .alnum => ⟨[(0x30, 0x39), (0x41, 0x5A), (0x61, 0x7A)]⟩
  | .alpha => ⟨[(0x41, 0x5A), (0x61, 0x7A)]⟩
  | .ascii => ⟨[(0, 0x7F)]⟩
  | .blank => ⟨[(0x09, 0x09), (0x20, 0x20)]⟩
  | .cntrl => ⟨[(0, 0x1F), (0x7F, 0x7F)]⟩
  | .digit => ⟨[(0x30, 0x39)]⟩
  | .graph => ⟨[(0x21, 0x7E)]⟩
  | .lower => ⟨[(0x61, 0x7A)]⟩
  | .print => ⟨[(0x20, 0x7E)]⟩
  | .punct => ⟨[(0x21, 0x2F), (0x3A, 0x40), (0x5B, 0x60), (0x7B, 0x7E)]⟩
  | .space => ⟨[(0x09, 0x0D), (0x20, 0x20)]⟩
  | .upper => ⟨[(0x41, 0x5A)]⟩
  | .word => ⟨[(0x30, 0x39), (0x41, 0x5A), (0x5F, 0x5F), (0x61, 0x7A)]⟩
  | .xdigit => ⟨[(0x30, 0x39), (0x41, 0x46), (0x61, 0x66)]⟩

def Shorthand.set (unicode : Bool) : Shorthand → CodeSet
  | .digit => if unicode then digits else AsciiClass.digit.set
  | .blank => if unicode then blanks else AsciiClass.space.set
  | .word => if unicode then wordCharacters else AsciiClass.word.set

/-- The shorthand classes are closed under case. -/
def shorthandSet (f : Flags) (s : Shorthand) (negated : Bool) : Except Fault CodeSet :=
  let set := s.set f.unicode
  checkSet f (if negated then negate f set else set)

def PropertyQuery.set? : PropertyQuery → Option CodeSet
  | .named name => namedSet? name
  | .valued property value equal =>
    (valuedSet? property value).map fun s => if equal then s else s.compl

def propertySet (f : Flags) (q : PropertyQuery) (negated : Bool) : Except Fault CodeSet :=
  if !f.unicode then .error .needsUnicode
  else match q.set? with
    | none => .error .unknownProperty
    | some s => foldAndNegate f negated s

/-- The code of a literal; one above `7F` that is written as a byte stands for that byte. -/
def literalCode (f : Flags) (l : Literal) : Except Fault Nat :=
  if !f.unicode && l.byte && l.char.toNat > 0x7F then .error .notUtf8 else .ok l.char.toNat

/-- A literal in a class; a class of bytes holds ASCII only. -/
def classCode (f : Flags) (l : Literal) : Except Fault Nat := do
  let n ← literalCode f l
  if !f.unicode && n > 0x7F then throw .needsUnicode
  return n

def ClassSet.toSet (f : Flags) : ClassSet → Except Fault CodeSet
  | .empty => return .empty
  | .literal l => return .single (← classCode f l)
  | .range lo hi => do
    let a ← classCode f lo
    let b ← classCode f hi
    return .range a b
  | .ascii c negated => foldAndNegate f negated c.set
  | .property q negated => propertySet f q negated
  | .shorthand s negated => shorthandSet f s negated
  | .bracket negated inner => do foldAndNegate f negated (CodeSet.unions [← inner.toSet f])
  | .union a b => do return (← a.toSet f).union (← b.toSet f)
  | .combine op a b => do
    let s := fold f (CodeSet.unions [← a.toSet f])
    let t := fold f (CodeSet.unions [← b.toSet f])
    match op with
    | .inter => return s.inter t
    | .diff => return s.diff t
    | .symmDiff => return s.symmDiff t

/-! ## Expressions -/

def dotSet (f : Flags) : Except Fault CodeSet :=
  if !f.unicode then .error .notUtf8
  else if f.dotAll then .ok ⟨[(0, lastCode)]⟩
  else if f.crlf then .ok ⟨[(0, 9), (11, 12), (14, lastCode)]⟩
  else .ok ⟨[(0, 9), (11, lastCode)]⟩

def Anchor.look (f : Flags) : Anchor → Look
  | .lineStart => if f.multiLine then (if f.crlf then .crlfStart else .lineStart) else .start
  | .lineEnd => if f.multiLine then (if f.crlf then .crlfEnd else .lineEnd) else .stop
  | .textStart => .start
  | .textEnd => .stop
  | .wordBoundary => .boundary f.unicode
  | .notWordBoundary => .notBoundary f.unicode
  | .wordStart => .wordStart f.unicode
  | .wordEnd => .wordEnd f.unicode
  | .wordStartHalf => .wordStartHalf f.unicode
  | .wordEndHalf => .wordEndHalf f.unicode

/-- A literal, in both cases if case is ignored. -/
def literalSet (f : Flags) (l : Literal) : Except Fault CodeSet := do
  let n ← literalCode f l
  return if !f.ignoreCase then .single n
    else if f.unicode then closeCase (.single n)
    else closeAsciiCase (.single n)

/-- The expression of a syntax tree, and the flags that hold after it. -/
def Ast.toExpr (f : Flags) : Ast → Except Fault (Expr × Flags)
  | .empty => return (.empty, f)
  | .flags change => return (.empty, f.apply change)
  | .literal l => return (.set (← literalSet f l), f)
  | .dot => return (.set (← dotSet f), f)
  | .anchor a => return (.look (a.look f), f)
  | .property q negated => return (.set (← propertySet f q negated), f)
  | .shorthand s negated => return (.set (← shorthandSet f s negated), f)
  | .bracket negated inner => do
    return (.set (← foldAndNegate f negated (CodeSet.unions [← inner.toSet f])), f)
  | .rep min max greedy a => do
    let (e, after) ← a.toExpr f
    return (.rep' min max (greedy != after.swapGreed) e, after)
  | .group kind a => do
    match kind with
    | .capture index name => return (.group index name (← a.toExpr f).1, f)
    | .plain change => return ((← a.toExpr (f.apply change)).1, f)
  | .cat a b => do
    let (x, f) ← a.toExpr f
    let (y, f) ← b.toExpr f
    return (.cat x y, f)
  | .alt a b => do
    let (x, f) ← a.toExpr f
    let (y, f) ← b.toExpr f
    return (.alt x y, f)

end LogTable.Regex

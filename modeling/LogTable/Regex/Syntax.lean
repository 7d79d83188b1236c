/-!
# The syntax tree of a regular expression

`Ast` is what a pattern says, before its flags are applied. Sequences and alternatives are binary;
`depth` counts a whole chain of them as one level, which is the measure that the nesting limit bounds.
-/
namespace LogTable.Regex

/-- One switch for each flag letter: `i`, `m`, `s`, `U`, `u`, `x`, `R`. `none` leaves a flag as it is. -/
structure FlagChange where
  ignoreCase : Option Bool := none
  multiLine : Option Bool := none
  dotAll : Option Bool := none
  swapGreed : Option Bool := none
  unicode : Option Bool := none
  extended : Option Bool := none
  crlf : Option Bool := none
  deriving DecidableEq, Repr

/-- A character of the pattern; `byte` marks one written as two hexadecimal digits after `\x`. -/
structure Literal where
  char : Char
  byte : Bool := false
  deriving DecidableEq, Repr

inductive Shorthand
  | digit | blank | word
  deriving DecidableEq, Repr

inductive AsciiClass
  | alnum | alpha | ascii | blank | cntrl | digit | graph | lower | print | punct | space | upper
  | word | xdigit
  deriving DecidableEq, Repr

inductive PropertyQuery
  | named (name : String)
  | valued (property value : String) (equal : Bool)
  deriving DecidableEq, Repr

inductive SetOp
  | inter | diff | symmDiff
  deriving DecidableEq, Repr

/-- The inside of a bracketed class. -/
inductive ClassSet
  | empty
  | literal (l : Literal)
  | range (lo hi : Literal)
  | ascii (c : AsciiClass) (negated : Bool)
  | property (q : PropertyQuery) (negated : Bool)
  | shorthand (s : Shorthand) (negated : Bool)
  | bracket (negated : Bool) (inner : ClassSet)
  | union (a b : ClassSet)
  | combine (op : SetOp) (a b : ClassSet)
  deriving DecidableEq, Repr

inductive Anchor
  | lineStart | lineEnd | textStart | textEnd | wordBoundary | notWordBoundary | wordStart | wordEnd
  | wordStartHalf | wordEndHalf
  deriving DecidableEq, Repr

inductive GroupKind
  | capture (index : Nat) (name : Option String)
  | plain (flags : FlagChange)
  deriving DecidableEq, Repr

inductive Ast
  | empty
  | flags (change : FlagChange)
  | literal (l : Literal)
  | dot
  | anchor (a : Anchor)
  | property (q : PropertyQuery) (negated : Bool)
  | shorthand (s : Shorthand) (negated : Bool)
  | bracket (negated : Bool) (inner : ClassSet)
  | rep (min : Nat) (max : Option Nat) (greedy : Bool) (a : Ast)
  | group (kind : GroupKind) (a : Ast)
  | cat (a b : Ast)
  | alt (a b : Ast)
  deriving DecidableEq, Repr

/-! ## Nesting -/

/-- Levels of nesting in a class; `chained` says that the parent is a union too. -/
def ClassSet.depth (chained : Bool) : ClassSet → Nat
  | .bracket _ inner => 1 + inner.depth false
  | .union a b => (if chained then 0 else 1) + max (a.depth true) (b.depth true)
  | .combine _ a b => 1 + max (a.depth false) (b.depth false)
  | _ => 0

/-- Which kind of chain the parent belongs to. -/
inductive Chain
  | none | cat | alt
  deriving DecidableEq

/-- Levels of nesting: repetitions, groups, classes, and chains of two or more. -/
def Ast.depth (chain : Chain) : Ast → Nat
  | .bracket _ inner => 1 + inner.depth false
  | .rep _ _ _ a => 1 + a.depth .none
  | .group _ a => 1 + a.depth .none
  | .cat a b => (if chain = .cat then 0 else 1) + max (a.depth .cat) (b.depth .cat)
  | .alt a b => (if chain = .alt then 0 else 1) + max (a.depth .alt) (b.depth .alt)
  | _ => 0

/-- The sequence of some expressions. -/
def Ast.sequence : List Ast → Ast
  | [] => .empty
  | [a] => a
  | a :: rest => .cat a (sequence rest)

/-- The choice between some expressions. -/
def Ast.choice : List Ast → Ast
  | [] => .empty
  | [a] => a
  | a :: rest => .alt a (choice rest)

end LogTable.Regex

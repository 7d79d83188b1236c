import LogTable.Journal
import LogTable.Number.Decimal
import LogTable.Regex.Basic

/-!
# Conditions

A condition is a predicate on the text of a cell, written as an operator and an operand:

* `== x`, `!= x`: the text is, or is not, `x`;
* `contains x`: `x` occurs in the text; a blank has to follow the word;
* `~ x`: the regular expression `x` matches somewhere in the text;
* `< x`, `<= x`, `> x`, `>= x`: the text, without blanks around it, is a number that compares so to `x`.

Blanks around the operand do not count, unless it is in double quotes.
-/
namespace LogTable

open Unicode Number

/-- mirrors `CompareOp` -/
inductive Comparison
  | less | atMost | greater | atLeast
  deriving DecidableEq, Repr

/-- Nothing compares to what is no number.
mirrors `CompareOp.apply` -/
def Comparison.holds : Comparison → Binary64 → Binary64 → Bool
  | .less, a, b => a.lt b
  | .atMost, a, b => a.le b
  | .greater, a, b => b.lt a
  | .atLeast, a, b => b.le a

/-- mirrors `Condition` -/
inductive Condition
  /-- Holds of no text. -/
  | never
  | equals (operand : String)
  | notEquals (operand : String)
  | contains (operand : String)
  | matches (regex : Regex)
  | compare (op : Comparison) (value : Binary64)

namespace Condition

inductive Operator
  | contains | equals | notEquals | compare (op : Comparison) | matches
  deriving DecidableEq, Repr

/-- The operators and how they are written, each before those that begin it.
mirrors `OPERATORS` -/
def operators : List (String × Operator) := [
  ("contains", .contains),
  ("==", .equals),
  ("!=", .notEquals),
  ("<=", .compare .atMost),
  (">=", .compare .atLeast),
  ("<", .compare .less),
  (">", .compare .greater),
  ("~", .matches)]

/-- What follows `front` in a text. -/
def after? (front : String) (cs : List Char) : Option (List Char) :=
  if front.toList.isPrefixOf cs then some (cs.drop front.toList.length) else none

/-- The operator that a text begins with, and the rest. -/
def splitOperator? (cs : List Char) : Option (Operator × List Char) :=
  operators.findSome? fun (front, op) => (after? front cs).map fun rest => (op, rest)

/-- Takes the quotes off a text that has one at each end.
mirrors `unquote` -/
def unquote (cs : List Char) : List Char :=
  match cs with
  | '"' :: rest => if rest.getLast? = some '"' then rest.dropLast else cs
  | _ => cs

/-- The condition of an operator with its operand.
mirrors the cases of `Condition.parse` -/
def build (op : Operator) (operand : String) : Except ConditionFault Condition :=
  match op with
  | .equals => .ok (.equals operand)
  | .notEquals => .ok (.notEquals operand)
  | .contains => .ok (.contains operand)
  | .matches =>
    match Regex.compile operand with
    | .ok regex => .ok (.matches regex)
    | .error f => .error (.pattern f)
  | .compare op =>
    match Binary64.read? operand with
    | some value => .ok (.compare op value)
    | none => .error (.notANumber operand)

/-- Reads a definition.
mirrors `Condition.parse` -/
def parse (definition : String) : Except ConditionFault Condition :=
  match splitOperator? (trimChars definition.toList) with
  | none => .error .unknownOperator
  | some (op, rest) =>
    if op = .contains && !(rest.head?.any isBlank) then .error .unknownOperator
    else build op (.ofList (unquote (trimChars rest)))

/-- Reads a definition; the failure tells which one is malformed. -/
def read (definition : String) : Except Failure Condition := (parse definition).mapError (.condition definition)

/-- Reads a definition; one that is malformed never holds, which is reported.
mirrors `Condition.compile` -/
def compile (definition : String) : Logged Condition :=
  match parse definition with
  | .ok c => pure c
  | .error reason => do
    Logged.note (.invalidCondition definition reason)
    return .never

/-- `needle` occurs in a text. -/
def occurs (needle : List Char) : List Char → Bool
  | [] => needle.isEmpty
  | c :: cs => needle.isPrefixOf (c :: cs) || occurs needle cs

/-- mirrors `Condition.eval` -/
def holds : Condition → String → Bool
  | .never, _ => false
  | .equals operand, text => text = operand
  | .notEquals operand, text => text ≠ operand
  | .contains operand, text => occurs operand.toList text.toList
  | .matches regex, text => regex.isMatch text
  | .compare op value, text =>
    match Binary64.read? (trim text) with
    | some x => op.holds x value
    | none => false

/-- mirrors `Condition.is_never` -/
def isNever : Condition → Bool
  | .never => true
  | _ => false

end Condition

end LogTable

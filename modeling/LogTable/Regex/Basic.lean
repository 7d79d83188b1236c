import LogTable.Regex.Parser
import LogTable.Regex.Size
import LogTable.Regex.Search

/-!
# Regular expressions

A `Regex` is a pattern together with its program and the names of its groups. Group 0 is the whole match
and has no name; no two groups share a name, which the value itself carries as a proof.

`captures?` gives one entry for every group: the text that the group took part in, or nothing.
-/
namespace LogTable

open Regex in
structure Regex where
  source : String
  /-- The name of each group, by group number. -/
  names : List (Option String)
  program : Program
  distinct : (names.filterMap id).Nodup

namespace Regex

/-- Names by group number; numbers that no group carries have no name. -/
def groupNames (groups : List (Nat × Option String)) : List (Option String) :=
  let count := groups.foldl (fun n g => max n (g.1 + 1)) 1
  (List.range count).map fun i => (groups.lookup i).join

/-- Compiles a pattern. Its size is checked before it is built. -/
def compile (source : String) : Except Fault Regex := do
  let ast ← parse source
  let (body, _) ← ast.toExpr {}
  let e := Expr.group 0 none body
  if e.bytes > sizeLimit then throw .tooLarge
  let names := groupNames e.groups
  if distinct : (names.filterMap id).Nodup then return ⟨source, names, e.program, distinct⟩
  else throw .repeatedGroupName

/-- The text between two places. -/
def between (text : List Char) (start stop : Option (Option Nat)) : Option String :=
  match start, stop with
  | some (some a), some (some b) => some (.ofList ((text.drop a).take (b - a)))
  | _, _ => none

/-- The groups of the leftmost match. -/
def captures? (r : Regex) (text : String) : Option (List (Option String)) :=
  let cs := text.toList
  (r.program.search (2 * r.names.length) cs).map fun slots =>
    (List.range r.names.length).map fun g => between cs slots[2 * g]? slots[2 * g + 1]?

/-- The pattern matches somewhere in the text. -/
def isMatch (r : Regex) (text : String) : Bool := (r.captures? text).isSome

theorem length_captures? {r : Regex} {text : String} {groups : List (Option String)}
    (h : r.captures? text = some groups) : groups.length = r.names.length := by
  simp only [captures?, Option.map_eq_some_iff] at h
  obtain ⟨_, _, rfl⟩ := h
  simp

end Regex

end LogTable

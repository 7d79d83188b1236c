import LogTable.Toml.Value

/-!
# Building the tables of a document

A document is read statement by statement. `Builder` holds the tables finished so far and the one whose
entries are being read; a header finishes it and starts the next.

A table comes into being in one of three ways, and each allows different things later:

* by a header: nothing may define it again, but headers and dotted keys may put tables into it;
* on the way to a header (`implicit`): one header may still define it;
* by a dotted key (`implicit` and `dotted`): only dotted keys of the same table may add to it.
-/
namespace LogTable.Toml

inductive Node
  /-- A value written after a key; inline tables and arrays are closed. -/
  | leaf (v : Value)
  | table (implicit dotted : Bool) (entries : List (String × Node))
  /-- The tables of an array, in order. -/
  | tables (items : List Node)

structure Table where
  implicit : Bool := false
  dotted : Bool := false
  entries : List (String × Node) := []

def Table.node (t : Table) : Node := .table t.implicit t.dotted t.entries

namespace Table

def get? (t : Table) (key : String) : Option Node := t.entries.lookup key

/-- Adds an entry, or replaces the one with this key where it stands. -/
def put (t : Table) (key : String) (n : Node) : Table :=
  if (t.get? key).isSome then
    { t with entries := t.entries.map fun e => if e.1 = key then (key, n) else e }
  else { t with entries := t.entries ++ [(key, n)] }

def erase (t : Table) (key : String) : Table :=
  { t with entries := t.entries.filter fun e => e.1 ≠ key }

/-- Changes the table at the end of a path, making tables on the way, and gives what `f` gives. In an array
of tables the path leads into the last of them. -/
def change (dotted : Bool) (f : Table → Except Fault (α × Table)) (t : Table) :
    List String → Except Fault (α × Table)
  | [] => f t
  | key :: path => do
    match t.get? key with
    | none =>
      let (a, child) ← change dotted f { implicit := true, dotted } path
      return (a, t.put key child.node)
    | some (.leaf _) => throw .duplicateKey
    | some (.table implicit isDotted entries) =>
      if dotted && !implicit then throw .duplicateKey
      let (a, child) ← change dotted f ⟨implicit, isDotted, entries⟩ path
      return (a, t.put key child.node)
    | some (.tables items) =>
      match items.getLast? with
      | some (.table implicit isDotted entries) =>
        let (a, child) ← change dotted f ⟨implicit, isDotted, entries⟩ path
        return (a, t.put key (.tables (items.dropLast ++ [child.node])))
      | _ => throw .duplicateKey

/-- Adds a value under a dotted key. The last table on the way has to be one of dotted keys exactly if the
key has more than one part. -/
def assign (t : Table) (path : List String) (key : String) (v : Value) : Except Fault Table := do
  let (_, t) ← t.change true (fun t => do
    if t.dotted = path.isEmpty || (t.get? key).isSome then throw .duplicateKey
    return ((), t.put key (.leaf v))) path
  return t

end Table

mutual

def Node.toValue : Node → Value
  | .leaf v => v
  | .table _ _ entries => .table (entriesToValues entries)
  | .tables items => .array (nodesToValues items)

def nodesToValues : List Node → List Value
  | [] => []
  | n :: rest => n.toValue :: nodesToValues rest

def entriesToValues : List (String × Node) → List (String × Value)
  | [] => []
  | (key, n) :: rest => (key, n.toValue) :: entriesToValues rest

end

def Table.toValue (t : Table) : Value := t.node.toValue

/-! ## Statements -/

structure Builder where
  root : Table := {}
  current : Table := {}
  /-- Where the current table belongs; empty for the root. -/
  path : List String := []
  inArray : Bool := false

namespace Builder

/-- Puts the current table where it belongs. -/
def finish (b : Builder) : Except Fault Table := do
  match b.path.getLast? with
  | none => return b.current
  | some key =>
    let (_, root) ← b.root.change false (fun t => do
      match t.get? key, b.inArray with
      | none, false => return ((), t.put key b.current.node)
      | none, true => return ((), t.put key (.tables [b.current.node]))
      | some (.tables items), true => return ((), t.put key (.tables (items ++ [b.current.node])))
      | _, _ => throw .duplicateKey) b.path.dropLast
    return root

def assign (b : Builder) (path : List String) (key : String) (v : Value) : Except Fault Builder := do
  return { b with current := ← b.current.assign path key v }

/-- A header of a table. A table that came into being on the way to another header keeps its entries, and
takes its place behind those that its parent has by now. -/
def openTable (b : Builder) (path : List String) : Except Fault Builder := do
  let root ← b.finish
  let key := path.getLast?.getD ""
  let (entries, root) ← root.change false (fun t => do
    match t.get? key with
    | none => return ([], t)
    | some (.table true false entries) => return (entries, t.erase key)
    | some _ => throw .duplicateKey) path.dropLast
  return ⟨root, { entries }, path, false⟩

/-- A header of the next table of an array. -/
def openArray (b : Builder) (path : List String) : Except Fault Builder := do
  return ⟨← b.finish, {}, path, true⟩

end Builder

end LogTable.Toml

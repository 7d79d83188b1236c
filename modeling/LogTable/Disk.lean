import LogTable.Failure
import LogTable.Path

/-!
# The disk as the program sees it

A path leads to a directory or to a file. A file has an identity, which it keeps while it is written to
and which no other file ever has, its bytes, and the time of its last change.

The operations below are what others do to a log file behind the program's back. Each change takes a
moment of its own, so that no two have the same time.
-/
namespace LogTable

structure File where
  identity : Nat
  bytes : List UInt8
  modified : Int
  deriving DecidableEq, Repr

inductive Node
  | directory
  | file (f : File)
  deriving DecidableEq, Repr

def Node.modified : Node → Int
  | .directory => 0
  | .file f => f.modified

structure Disk where
  entries : List (List String × Node) := []
  /-- Counts changes; gives identities and times. -/
  clock : Nat := 0

namespace Disk

/-- What stands at the end of these parts. A directory is there also if only something in it is known. -/
def node? (d : Disk) (parts : List String) : Option Node :=
  match d.entries.lookup parts with
  | some n => some n
  | none =>
    if parts.isEmpty || d.entries.any fun e => parts.isPrefixOf e.1 then some .directory else none

/-- Follows parts from a directory. -/
def walk (d : Disk) (at' : List String) : List String → Except OsFault Node
  | [] => match d.node? at' with
    | some n => .ok n
    | none => .error .notFound
  | part :: parts => match d.node? at' with
    | some .directory => d.walk (at' ++ [part]) parts
    | some (.file _) => .error .notADirectory
    | none => .error .notFound

/-- What a path leads to. -/
def read (d : Disk) (path : String) : Except OsFault Node :=
  if path = "" then .error .notFound
  else do
    let n ← d.walk [] (Path.parts path)
    match n with
    | .file _ => if Path.isInto path then throw .notADirectory else return n
    | .directory => return n

def file? (d : Disk) (path : String) : Option File :=
  match d.read path with
  | .ok (.file f) => some f
  | _ => none

/-! ## Changes -/

def erase (d : Disk) (path : String) : Disk :=
  { d with entries := d.entries.filter fun e => e.1 ≠ Path.parts path }

def put (d : Disk) (path : String) (n : Node) : Disk :=
  { entries := (Path.parts path, n) :: (d.erase path).entries, clock := d.clock + 1 }

/-- Another file comes to this path. -/
def rotate (d : Disk) (path : String) (bytes : List UInt8) : Disk :=
  d.put path (.file ⟨d.clock, bytes, d.clock⟩)

/-- Changes the bytes of the file at a path; without a file there, one comes into being. -/
def change (d : Disk) (path : String) (f : List UInt8 → List UInt8) : Disk :=
  match d.file? path with
  | some file => d.put path (.file { file with bytes := f file.bytes, modified := d.clock })
  | none => d.rotate path (f [])

def append (d : Disk) (path : String) (bytes : List UInt8) : Disk := d.change path (· ++ bytes)

def write (d : Disk) (path : String) (bytes : List UInt8) : Disk := d.change path fun _ => bytes

/-- Empties the file at a path, or makes an empty one in a directory that is there. -/
def create (d : Disk) (path : String) : Except OsFault Disk :=
  match d.read path with
  | .ok (.file _) => .ok (d.write path [])
  | .ok .directory => .error .isADirectory
  | .error cause =>
    let inDirectory := d.walk [] (Path.parts path).dropLast matches .ok .directory
    if path = "" || cause ≠ .notFound || !inDirectory then .error cause
    else if Path.isInto path then .error .isADirectory
    else .ok (d.write path [])

/-- Cuts the file to a size, or fills it up to that with zeros. -/
def truncate (d : Disk) (path : String) (size : Nat) : Disk :=
  d.change path fun bytes => bytes.take size ++ List.replicate (size - bytes.length) 0

def remove (d : Disk) (path : String) : Disk := { d.erase path with clock := d.clock + 1 }

def mkdir (d : Disk) (path : String) : Disk := d.put path .directory

/-- Another file comes to this path, with a given time of its last change. -/
def writeStamped (d : Disk) (path : String) (bytes : List UInt8) (modified : Int) : Disk :=
  d.put path (.file ⟨d.clock, bytes, modified⟩)

end Disk

end LogTable

import LogTable.Text.Pieces

/-!
# Paths

A path is a text. Its parts are what stands between slashes, without empty parts and single dots.
-/
namespace LogTable.Path

def parts (path : String) : List String := (Text.pieces '/' path).filter fun p => p ≠ "" && p ≠ "."

/-- The last part, unless it leads upwards. -/
def fileName? (path : String) : Option String :=
  match (parts path).getLast? with
  | some ".." => none
  | last => last

/-- A name without its extension: what stands before its last dot, if that is anything. -/
def stem (name : String) : String :=
  let pieces := Text.pieces '.' name
  let front := ".".intercalate pieces.dropLast
  if front = "" then name else front

/-- The name of a file without its extension. -/
def fileStem? (path : String) : Option String := (fileName? path).map stem

/-- The path leads into a directory: it ends with a slash or a dot part. -/
def isInto (path : String) : Bool :=
  match (Text.pieces '/' path).getLast? with
  | some last => (last = "" || last = ".") && path ≠ ""
  | none => false

end LogTable.Path

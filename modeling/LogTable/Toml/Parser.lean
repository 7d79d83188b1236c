import LogTable.Toml.Scalar
import LogTable.Toml.Document

/-!
# Reading a TOML document

`parse` gives the root table of a document. Values nest at most 79 deep, and a dotted key has at most as
many parts.
-/
namespace LogTable.Toml

/-- Levels of nesting. -/
def nestLimit : Nat := 79

/-- A comment, if there is one. -/
def skipComment : Chars → Chars
  | '#' :: cs => cs.dropWhile isPlain
  | cs => cs

/-- Skips blanks, ends of lines and comments; each round of `fuel` passes one comment. -/
def skipFiller : Nat → Chars → Chars
  | 0, cs => cs
  | fuel + 1, cs =>
    match skipBlankLines cs with
    | '#' :: rest => skipFiller fuel (rest.dropWhile isPlain)
    | rest => rest

def skipAllFiller (cs : Chars) : Chars := skipFiller (cs.length + 1) cs

/-- The end of a statement: blanks, a comment and the end of the line or of the document. -/
def endLine (cs : Chars) : Except Fault Chars :=
  match skipComment (skipBlank cs) with
  | [] => .ok []
  | rest => match newline? rest with
    | some rest => .ok rest
    | none => .error .trailing

def expect (c : Char) (f : Fault) : Chars → Except Fault Chars
  | d :: cs => if d = c then .ok cs else .error f
  | [] => .error f

/-! ## Keys -/

def isBareKey (c : Char) : Bool := c.isAlphanum || c = '_' || c = '-'

def readSimpleKey (cs : Chars) : Except Fault (String × Chars) :=
  match cs with
  | '"' :: rest => readBasic (rest.length + 1) rest []
  | '\'' :: rest => readLiteral rest
  | _ =>
    let key := cs.takeWhile isBareKey
    if key.isEmpty then .error .badKey else .ok (.ofList key, cs.dropWhile isBareKey)

/-- The parts of a dotted key, with blanks around each of them. -/
def readKeyParts : Nat → Chars → Except Fault (List String × Chars)
  | 0, _ => .error .tooDeep
  | fuel + 1, cs => do
    let (key, rest) ← readSimpleKey (skipBlank cs)
    match skipBlank rest with
    | '.' :: rest =>
      let (keys, rest) ← readKeyParts fuel rest
      return (key :: keys, rest)
    | rest => return ([key], rest)

def readKey (cs : Chars) : Except Fault (List String × Chars) := readKeyParts nestLimit cs

/-! ## Values -/

abbrev ReadValue := Chars → Except Fault (Value × Chars)

/-- The items of an array after its opening bracket; a comma may stand behind the last one. -/
def readItems (item : ReadValue) : Nat → Chars → List Value → Except Fault (Value × Chars)
  | 0, _, _ => .error .unclosed
  | fuel + 1, cs, items => do
    match skipAllFiller cs with
    | ']' :: rest => return (.array items.reverse, rest)
    | cs =>
      let (v, rest) ← item cs
      match skipAllFiller rest with
      | ',' :: rest => readItems item fuel rest (v :: items)
      | ']' :: rest => return (.array (v :: items).reverse, rest)
      | _ => throw .unclosed

/-- A key and its value, behind which nothing is read. -/
def readPair (item : ReadValue) (cs : Chars) : Except Fault (List String × Value × Chars) := do
  let (key, rest) ← readKey cs
  let rest ← expect '=' .badKey rest
  let (v, rest) ← item (skipBlank rest)
  return (key, v, rest)

def assignKey (t : Table) (key : List String) (v : Value) : Except Fault Table :=
  t.assign key.dropLast (key.getLast?.getD "") v

/-- The pairs of an inline table, of which there is at least one. -/
def readPairs (item : ReadValue) : Nat → Chars → Table → Except Fault (Value × Chars)
  | 0, _, _ => .error .unclosed
  | fuel + 1, cs, t => do
    let (key, v, rest) ← readPair item cs
    let t ← assignKey t key v
    match skipBlank rest with
    | ',' :: rest => readPairs item fuel rest t
    | '\x7d' :: rest => return (t.toValue, rest)
    | _ => throw .unclosed

def readInlineTable (item : ReadValue) (cs : Chars) : Except Fault (Value × Chars) :=
  match skipBlank cs with
  | '\x7d' :: rest => .ok (.table [], rest)
  | cs => readPairs item (cs.length + 1) cs {}

/-- A value with at most so many levels of arrays and inline tables. -/
def readValue : Nat → ReadValue
  | 0, cs =>
    match cs with
    | '[' :: _ | '\x7b' :: _ => .error .tooDeep
    | _ => readScalar cs
  | levels + 1, cs =>
    match cs with
    | '[' :: rest => readItems (readValue levels) (rest.length + 1) rest []
    | '\x7b' :: rest => readInlineTable (readValue levels) rest
    | _ => readScalar cs

/-! ## Documents -/

/-- A header, from behind its first bracket. -/
def readHeader (b : Builder) (cs : Chars) : Except Fault (Builder × Chars) := do
  match cs with
  | '[' :: cs =>
    let (path, rest) ← readKey cs
    let rest ← expect ']' .unclosed rest
    let rest ← expect ']' .unclosed rest
    return (← b.openArray path, ← endLine rest)
  | _ =>
    let (path, rest) ← readKey cs
    let rest ← expect ']' .unclosed rest
    return (← b.openTable path, ← endLine rest)

/-- Reads statements; each takes at least one character. -/
def readStatements : Nat → Builder → Chars → Except Fault Builder
  | 0, b, _ => .ok b
  | fuel + 1, b, cs => do
    match skipBlankLines cs with
    | [] => return b
    | '#' :: rest => readStatements fuel b (← endLine ('#' :: rest))
    | '[' :: rest =>
      let (b, rest) ← readHeader b rest
      readStatements fuel b rest
    | cs =>
      let (key, v, rest) ← readPair (readValue nestLimit) cs
      let b ← b.assign key.dropLast (key.getLast?.getD "") v
      readStatements fuel b (← endLine rest)

/-- The entries of a document. A byte order mark may stand in front of it. -/
def parse (text : String) : Except Fault (List (String × Value)) := do
  let cs := match text.toList with
    | '\uFEFF' :: cs => cs
    | cs => cs
  let b ← readStatements (cs.length + 1) {} cs
  return entriesToValues (← b.finish).entries

end LogTable.Toml

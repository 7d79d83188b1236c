import LogTable.Unicode.Blank
import LogTable.Unicode.Query
import LogTable.Regex.Syntax
import LogTable.Regex.Fault

/-!
# Reading a regular expression

The reader keeps the rest of the pattern and whether blanks and comments are skipped (the flag `x`,
which a group restores when it closes). Open groups and open classes are kept on explicit stacks, so each
loop takes at least one character a round and the length of the pattern bounds it.

Names of groups start with a letter or `_` and go on with letters, digits, `_`, `.`, `[` and `]`; two
groups never share one.
-/
namespace LogTable.Regex

open Unicode

structure Reader where
  rest : List Char
  /-- Blanks and comments are skipped. -/
  extended : Bool := false
  /-- Capture groups opened so far. -/
  groups : Nat := 0
  names : List String := []

abbrev Read := StateT Reader (Except Fault)

namespace Read

def fail (f : Fault) : Read α := fun _ => .error f

def peek? : Read (Option Char) := do return (← get).rest.head?

/-- The next character; at the end of the pattern `f` is the fault. -/
def peek (f : Fault) : Read Char := do
  match (← get).rest with
  | [] => fail f
  | c :: _ => return c

def setRest (cs : List Char) : Read Unit := modify fun r => { r with rest := cs }

def advance : Read Unit := modify fun r => { r with rest := r.rest.tail }

/-- What is left after blanks and comments. -/
def skipBlanks : List Char → List Char
  | [] => []
  | c :: rest =>
    if isBlank c then skipBlanks rest
    else if c = '#' then skipBlanks ((rest.dropWhile (· ≠ '\n')).drop 1)
    else c :: rest
termination_by cs => cs.length
decreasing_by
  · simp
  · have := (List.dropWhile_sublist (· ≠ '\n') (l := rest)).length_le
    simp only [List.length_drop, List.length_cons]
    omega

def skipSpace : Read Unit := modify fun r => if r.extended then { r with rest := skipBlanks r.rest } else r

/-- Past one character and the blanks behind it. -/
def advanceSpace : Read Unit := do
  advance
  skipSpace

/-- Takes `text` if it comes next. -/
def take? (text : String) : Read Bool := do
  let cs := text.toList
  let r ← get
  if cs.isPrefixOf r.rest then
    setRest (r.rest.drop cs.length)
    return true
  else return false

/-- Takes characters while they satisfy `p`, and returns them. -/
def takeWhile (p : Char → Bool) : Read (List Char) := do
  let r ← get
  setRest (r.rest.dropWhile p)
  return r.rest.takeWhile p

end Read

open Read

/-! ## Numbers and escapes -/

/-- Digits with blanks between them where blanks are skipped. -/
def readDigits : Nat → Read (List Char)
  | 0 => return []
  | fuel + 1 => do
    match ← peek? with
    | some c =>
      if c.isDigit then
        advanceSpace
        return c :: (← readDigits fuel)
      else return []
    | none => return []

/-- A count of 32 bits, with blanks allowed around it. `none` says that there is no digit. -/
def readCount : Read (Option Nat) := do
  let _ ← takeWhile isBlank
  let digits ← readDigits (← get).rest.length
  let _ ← takeWhile isBlank
  skipSpace
  if digits.isEmpty then return none
  let n := digits.foldl (fun n c => n * 10 + (c.toNat - '0'.toNat)) 0
  if n < 0x100000000 then return some n else fail .badRepetition

/-- The character with this code. -/
def charOf (n : Nat) : Read Char :=
  if h : n.isValidChar then return Char.ofNatAux n h else fail .badHex

/-- `n` more hexadecimal digits after `value`. -/
def readHexDigits : Nat → Nat → Read Nat
  | 0, value => return value
  | n + 1, value => do
    let c ← peek .endOfPattern
    match CodeSet.hexValue? c with
    | none => fail .badHex
    | some d =>
      advanceSpace
      readHexDigits n (value * 16 + d)

/-- Hexadecimal digits up to a closing brace. -/
def readHexBrace : Nat → Nat → Nat → Read Nat
  | 0, _, _ => fail .endOfPattern
  | fuel + 1, count, value => do
    let c ← peek .endOfPattern
    if c = '\x7d' then
      advanceSpace
      if count = 0 then fail .badHex else return value
    else match CodeSet.hexValue? c with
      | none => fail .badHex
      | some d =>
        advanceSpace
        readHexBrace fuel (count + 1) (value * 16 + d)

/-- After `\x`, `\u` or `\U`: two, four or eight digits, or any number of them in braces. -/
def readHex (width : Nat) : Read Literal := do
  advanceSpace
  let c ← peek .endOfPattern
  if c = '\x7b' then
    advanceSpace
    let n ← readHexBrace ((← get).rest.length + 1) 0 0
    return ⟨← charOf n, false⟩
  else
    let n ← readHexDigits width 0
    return ⟨← charOf n, width = 2⟩

/-- Splits at the first place where `mark` stands. -/
def cutAt (mark : List Char) : List Char → Option (List Char × List Char)
  | [] => none
  | c :: rest =>
    if mark.isPrefixOf (c :: rest) then some ([], (c :: rest).drop mark.length)
    else (cutAt mark rest).map fun (a, b) => (c :: a, b)

def PropertyQuery.ofName (cs : List Char) : PropertyQuery :=
  let pair (equal : Bool) (ab : List Char × List Char) : PropertyQuery :=
    .valued (.ofList ab.1) (.ofList ab.2) equal
  ((((cutAt ['!', '='] cs).map (pair false)).orElse fun _ => (cutAt [':'] cs).map (pair true)).orElse
    fun _ => (cutAt ['='] cs).map (pair true)).getD (.named (.ofList cs))

/-- Characters up to a closing brace. -/
def readPropertyName : Nat → Read (List Char)
  | 0 => fail .endOfPattern
  | fuel + 1 => do
    let c ← peek .endOfPattern
    if c = '\x7d' then
      advance
      return []
    else
      advanceSpace
      return c :: (← readPropertyName fuel)

/-- After `\p` or `\P`. -/
def readProperty : Read PropertyQuery := do
  advanceSpace
  let c ← peek .endOfPattern
  if c = '\x7b' then
    advanceSpace
    return .ofName (← readPropertyName ((← get).rest.length + 1))
  else if c = '\\' then fail .unknownProperty
  else
    advance
    return .named (.singleton c)

/-- Characters that mean something in a pattern or in a class. -/
def isMeta (c : Char) : Bool :=
  "\\.+*?()|[]\x7b\x7d^$#&-~".toList.contains c

/-- Characters other than letters and digits that may be escaped for nothing. -/
def isEscapable (c : Char) : Bool :=
  isMeta c || (c.toNat < 128 && !c.isAlphanum && c ≠ '<' && c ≠ '>')

/-- An item that is one character long or an escape. -/
inductive Item
  | literal (l : Literal)
  | dot
  | anchor (a : Anchor)
  | property (q : PropertyQuery) (negated : Bool)
  | shorthand (s : Shorthand) (negated : Bool)

/-- Letters and hyphens, with blanks between them where blanks are skipped. -/
def readBoundaryName : Nat → Read (List Char)
  | 0 => return []
  | fuel + 1 => do
    match ← peek? with
    | some c =>
      if c.isAlpha || c = '-' then
        advanceSpace
        return c :: (← readBoundaryName fuel)
      else return []
    | none => return []

/-- After `\b`: a name in braces picks a special boundary. Braces that do not begin with a letter or a
hyphen are left for a repetition. -/
def readBoundary : Read Anchor := do
  let start ← get
  if start.rest.head? ≠ some '\x7b' then return .wordBoundary
  advanceSpace
  let c ← peek .badBoundary
  if !(c.isAlpha || c = '-') then
    setRest start.rest
    return .wordBoundary
  let name ← readBoundaryName (← get).rest.length
  if (← peek .badBoundary) ≠ '\x7d' then fail .badBoundary
  advance
  match String.ofList name with
  | "start" => return .wordStart
  | "end" => return .wordEnd
  | "start-half" => return .wordStartHalf
  | "end-half" => return .wordEndHalf
  | _ => fail .badBoundary

/-- After a backslash. -/
def readEscape : Read Item := do
  advance
  let c ← peek .endOfPattern
  if c.isDigit then fail .backReference
  match c with
  | 'x' => return .literal (← readHex 2)
  | 'u' => return .literal (← readHex 4)
  | 'U' => return .literal (← readHex 8)
  | 'p' => return .property (← readProperty) false
  | 'P' => return .property (← readProperty) true
  | _ =>
    advance
    if isEscapable c then return .literal ⟨c, false⟩
    match c with
    | 'd' => return .shorthand .digit false
    | 's' => return .shorthand .blank false
    | 'w' => return .shorthand .word false
    | 'D' => return .shorthand .digit true
    | 'S' => return .shorthand .blank true
    | 'W' => return .shorthand .word true
    | 'a' => return .literal ⟨'\x07', false⟩
    | 'f' => return .literal ⟨'\x0c', false⟩
    | 't' => return .literal ⟨'\t', false⟩
    | 'n' => return .literal ⟨'\n', false⟩
    | 'r' => return .literal ⟨'\r', false⟩
    | 'v' => return .literal ⟨'\x0b', false⟩
    | 'A' => return .anchor .textStart
    | 'z' => return .anchor .textEnd
    | 'b' => return .anchor (← readBoundary)
    | 'B' => return .anchor .notWordBoundary
    | '<' => return .anchor .wordStart
    | '>' => return .anchor .wordEnd
    | _ => fail .badEscape

/-! ## Classes -/

/-- An item of a class that may stand at the end of a range. -/
def readClassItem : Read Item := do
  let c ← peek .unclosedClass
  if c = '\\' then readEscape
  else
    advance
    return .literal ⟨c, false⟩

def Item.toClass : Item → Read ClassSet
  | .literal l => return .literal l
  | .property q n => return .property q n
  | .shorthand s n => return .shorthand s n
  | .dot | .anchor _ => fail .classEscape

def Item.toLiteral : Item → Read Literal
  | .literal l => return l
  | _ => fail .rangeEnd

/-- An item or a range. A hyphen before `]` or before another hyphen makes no range. -/
def readClassRange : Read ClassSet := do
  let first ← readClassItem
  skipSpace
  if (← peek .unclosedClass) ≠ '-' then return ← first.toClass
  let r ← get
  let behind := if r.extended then skipBlanks r.rest.tail else r.rest.tail
  if behind.head? = some ']' || behind.head? = some '-' then return ← first.toClass
  advanceSpace
  let _ ← peek .unclosedClass
  let second ← readClassItem
  let lo ← first.toLiteral
  let hi ← second.toLiteral
  if lo.char ≤ hi.char then return .range lo hi else fail .emptyRange

def AsciiClass.ofName? : String → Option AsciiClass
  | "alnum" => some .alnum
  | "alpha" => some .alpha
  | "ascii" => some .ascii
  | "blank" => some .blank
  | "cntrl" => some .cntrl
  | "digit" => some .digit
  | "graph" => some .graph
  | "lower" => some .lower
  | "print" => some .print
  | "punct" => some .punct
  | "space" => some .space
  | "upper" => some .upper
  | "word" => some .word
  | "xdigit" => some .xdigit
  | _ => none

/-- A named class such as `[:alpha:]`, with what follows it. -/
def asciiClass? (cs : List Char) : Option (ClassSet × List Char) :=
  match cs with
  | '[' :: ':' :: rest =>
    let (negated, rest) := match rest with
      | '^' :: r => (true, r)
      | _ => (false, rest)
    let name := rest.takeWhile (· ≠ ':')
    match rest.dropWhile (· ≠ ':') with
    | ':' :: ']' :: after =>
      (AsciiClass.ofName? (.ofList name)).map fun c => (.ascii c negated, after)
    | _ => none
  | _ => none

/-- A class that is still open: whether it is negated, the operators waiting for their right side (the
innermost first) and the items since the last of them, in reverse. -/
structure OpenClass where
  negated : Bool
  waiting : Option (SetOp × ClassSet) := none
  items : List ClassSet := []

def OpenClass.push (o : OpenClass) (c : ClassSet) : OpenClass := { o with items := c :: o.items }

def ClassSet.unionOf : List ClassSet → ClassSet
  | [] => .empty
  | [c] => c
  | c :: rest => .union c (unionOf rest)

/-- The operand so far: operators have one rank and take their left side from the left. -/
def OpenClass.operand (o : OpenClass) : ClassSet :=
  let right := ClassSet.unionOf o.items.reverse
  match o.waiting with
  | some (op, left) => .combine op left right
  | none => right

def OpenClass.apply (o : OpenClass) (op : SetOp) : OpenClass :=
  { o with waiting := some (op, o.operand), items := [] }

/-- Hyphens at the front of a class. -/
def readLeadingHyphens : Nat → List ClassSet → Read (List ClassSet)
  | 0, items => return items
  | fuel + 1, items => do
    if (← peek .unclosedClass) = '-' then
      advanceSpace
      readLeadingHyphens fuel (.literal ⟨'-', false⟩ :: items)
    else return items

/-- From an opening bracket to the first item. Hyphens stand for themselves there, and so does `]` when
nothing comes before it. -/
def readClassOpen : Read OpenClass := do
  advanceSpace
  let negated := (← peek .unclosedClass) = '^'
  if negated then advanceSpace
  let items ← readLeadingHyphens ((← get).rest.length + 1) []
  let c ← peek .unclosedClass
  if items.isEmpty && c = ']' then
    advanceSpace
    let _ ← peek .unclosedClass
    return { negated, items := [.literal ⟨']', false⟩] }
  return { negated, items }

/-- The operator of this character, written twice. -/
def SetOp.ofChar? : Char → Option SetOp
  | '&' => some .inter
  | '-' => some .diff
  | '~' => some .symmDiff
  | _ => none

/-- The rest of a class: `top` is the innermost open one, `outer` those around it. -/
def readClassRest : Nat → OpenClass → List OpenClass → Read (Bool × ClassSet)
  | 0, _, _ => fail .unclosedClass
  | fuel + 1, top, outer => do
    skipSpace
    let c ← peek .unclosedClass
    let r ← get
    if c = '[' then
      match asciiClass? r.rest with
      | some (named, after) =>
        setRest after
        readClassRest fuel (top.push named) outer
      | none => readClassRest fuel (← readClassOpen) (top :: outer)
    else if c = ']' then
      advance
      match outer with
      | [] => return (top.negated, top.operand)
      | up :: outer => readClassRest fuel (up.push (.bracket top.negated top.operand)) outer
    else match if r.rest.tail.head? = some c then SetOp.ofChar? c else none with
      | some op =>
        setRest (r.rest.drop 2)
        readClassRest fuel (top.apply op) outer
      | none => readClassRest fuel (top.push (← readClassRange)) outer

def readClass : Read Ast := do
  let top ← readClassOpen
  let (negated, inner) ← readClassRest ((← get).rest.length + 1) top []
  return .bracket negated inner

/-! ## Groups and flags -/

/-- Sets one flag; a flag is named once at most. -/
def FlagChange.set (f : FlagChange) (c : Char) (on : Bool) : Read FlagChange :=
  let once (old : Option Bool) (new : FlagChange) : Read FlagChange :=
    if old.isSome then fail .badFlag else return new
  match c with
  | 'i' => once f.ignoreCase { f with ignoreCase := some on }
  | 'm' => once f.multiLine { f with multiLine := some on }
  | 's' => once f.dotAll { f with dotAll := some on }
  | 'U' => once f.swapGreed { f with swapGreed := some on }
  | 'u' => once f.unicode { f with unicode := some on }
  | 'x' => once f.extended { f with extended := some on }
  | 'R' => once f.crlf { f with crlf := some on }
  | _ => fail .badFlag

/-- Flags up to `:` or `)`; a hyphen, at most one and not the last, turns those behind it off. Returns
whether there was any item, and the character that ended them. -/
def readFlags : Nat → FlagChange → Bool → Bool → Bool → Read (FlagChange × Bool × Char)
  | 0, _, _, _, _ => fail .badFlag
  | fuel + 1, f, on, dangling, any => do
    let c ← peek .badFlag
    advance
    if c = ':' || c = ')' then
      if dangling then fail .badFlag else return (f, any, c)
    else if c = '-' then
      if on then readFlags fuel f false true true else fail .badFlag
    else readFlags fuel (← f.set c on) on false true

def isNameStart (c : Char) : Bool :=
  c = '_' || c.isAlpha || 0x80 ≤ c.toNat && alphabetic.contains c.toNat

def isNameRest (c : Char) : Bool :=
  c = '_' || c = '.' || c = '[' || c = ']' || c.isAlphanum || 0x80 ≤ c.toNat && alphanumeric.contains c.toNat

/-- A group name and the `>` behind it. -/
def readGroupName : Read String := do
  let cs ← takeWhile (· ≠ '>')
  if (← peek?).isNone then fail .badGroupName
  advance
  match cs with
  | [] => fail .badGroupName
  | c :: rest =>
    if !(isNameStart c && rest.all isNameRest) then fail .badGroupName
    let name := String.ofList cs
    let r ← get
    if r.names.contains name then fail .repeatedGroupName
    set { r with names := name :: r.names }
    return name

def newGroup (name : Option String) : Read GroupKind := do
  let r ← get
  set { r with groups := r.groups + 1 }
  return .capture (r.groups + 1) name

/-- What an opening parenthesis starts: a group, or a change of flags up to the end of this one. -/
def readGroupOpen : Read (GroupKind ⊕ FlagChange) := do
  advanceSpace
  for look in ["?=", "?!", "?<=", "?<!"] do
    if ← take? look then fail .lookAround
  if ← take? "?P<" then return .inl (← newGroup (some (← readGroupName)))
  else if ← take? "?<" then return .inl (← newGroup (some (← readGroupName)))
  else if ← take? "?" then
    let (flags, any, ending) ← readFlags ((← get).rest.length + 1) {} true false false
    if ending = ')' then
      if any then return .inr flags else fail .nothingToRepeat
    else return .inl (.plain flags)
  else return .inl (← newGroup none)

/-! ## Repetition -/

/-- The bounds between braces. -/
def readBounds : Read (Nat × Option Nat) := do
  advanceSpace
  let _ ← peek .badRepetition
  let low ← readCount
  let c ← peek .badRepetition
  let bounds ← (do
    if c = ',' then
      advanceSpace
      if (← peek .badRepetition) = '\x7d' then
        match low with
        | some n => return (n, none)
        | none => fail .badRepetition
      else
        match low, ← readCount with
        | some n, some m => return (n, some m)
        | _, _ => fail .badRepetition
    else match low with
      | some n => return (n, some n)
      | none => fail .badRepetition : Read (Nat × Option Nat))
  if (← peek .badRepetition) ≠ '\x7d' then fail .badRepetition
  match bounds with
  | (n, some m) => if n ≤ m then return bounds else fail .badRepetition
  | _ => return bounds

/-- A repetition of the last of `items`. A question mark behind it makes it lazy. -/
def readRepetition (c : Char) (items : List Ast) : Read (List Ast) := do
  match items with
  | [] | .empty :: _ | .flags _ :: _ => fail .nothingToRepeat
  | a :: before =>
    let (min, max) ← (match c with
      | '?' => return (0, some 1)
      | '*' => return (0, none)
      | '+' => return (1, none)
      | _ => readBounds : Read (Nat × Option Nat))
    if c = '\x7b' then advanceSpace else advance
    let lazy ← take? "?"
    return .rep min max (!lazy) a :: before

/-! ## The whole pattern -/

/-- A group that is still open: its finished alternatives and the items of the current one, both in
reverse, with the flag to restore when it closes. -/
structure OpenGroup where
  kind : GroupKind
  extended : Bool
  branches : List Ast
  items : List Ast

/-- What a group or the whole pattern says, from its alternatives and the last one's items. -/
def body (branches items : List Ast) : Ast :=
  .choice (Ast.sequence items.reverse :: branches).reverse

/-- Reads on with `branches` and `items` of the innermost group, inside the groups of `outer`. -/
def readPattern : Nat → List Ast → List Ast → List OpenGroup → Read Ast
  | 0, _, _, _ => fail .endOfPattern
  | fuel + 1, branches, items, outer => do
    skipSpace
    match ← peek? with
    | none =>
      match outer with
      | [] => return body branches items
      | _ :: _ => fail .unclosedGroup
    | some '(' =>
      let r ← get
      match ← readGroupOpen with
      | .inr flags =>
        modify fun r => { r with extended := flags.extended.getD r.extended }
        readPattern fuel branches (.flags flags :: items) outer
      | .inl kind =>
        let inner := match kind with
          | .plain flags => flags.extended.getD r.extended
          | .capture _ _ => r.extended
        modify fun r => { r with extended := inner }
        readPattern fuel [] [] (⟨kind, r.extended, branches, items⟩ :: outer)
    | some ')' =>
      match outer with
      | [] => fail .unopenedGroup
      | g :: outer =>
        modify fun r => { r with extended := g.extended }
        advance
        readPattern fuel g.branches (.group g.kind (body branches items) :: g.items) outer
    | some '|' =>
      advance
      readPattern fuel (Ast.sequence items.reverse :: branches) [] outer
    | some '[' => readPattern fuel branches ((← readClass) :: items) outer
    | some c =>
      if c = '?' || c = '*' || c = '+' || c = '\x7b' then
        readPattern fuel branches (← readRepetition c items) outer
      else
        let item ← (match c with
          | '\\' => readEscape
          | '.' => do advance; return .dot
          | '^' => do advance; return .anchor .lineStart
          | '$' => do advance; return .anchor .lineEnd
          | _ => do advance; return .literal ⟨c, false⟩ : Read Item)
        let ast : Ast := match item with
          | .literal l => .literal l
          | .dot => .dot
          | .anchor a => .anchor a
          | .property q n => .property q n
          | .shorthand s n => .shorthand s n
        readPattern fuel branches (ast :: items) outer

/-- How deep a pattern may nest. -/
def nestLimit : Nat := 250

/-- The syntax tree of a pattern. -/
def parse (pattern : String) : Except Fault Ast := do
  let cs := pattern.toList
  let (ast, _) ← (readPattern (cs.length + 1) [] [] []).run { rest := cs }
  if ast.depth .none ≤ nestLimit then return ast else throw .tooDeep

end LogTable.Regex

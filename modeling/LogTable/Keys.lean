/-!
# Keys and actions

What the terminal reports, and what the user asks for by it. Only the press of a key asks for something.
A letter does so without `Ctrl` and `Alt`, other keys with any modifier; `Ctrl` and `c` together quit.
-/
namespace LogTable

/-- mirrors `ScrollDirection` -/
inductive Direction
  | up | down
  deriving DecidableEq, Repr

/-- What the user can ask for.
mirrors `InputAction` -/
inductive Action
  | scroll (towards : Direction) (rows : Nat)
  | pageUp | pageDown | toStart | toEnd | toggleAuto | reload
  | resize (width height : Nat)
  | quit
  deriving DecidableEq, Repr

/-! ## Keys -/

inductive KeyCode
  | char (c : Char)
  | up | down | pageUp | pageDown | home | endKey | escape
  | other
  deriving DecidableEq, Repr

inductive KeyPhase
  | press | held | release
  deriving DecidableEq, Repr

structure Key where
  code : KeyCode
  ctrl : Bool := false
  alt : Bool := false
  phase : KeyPhase := .press
  deriving DecidableEq, Repr

/-- What a letter asks for. -/
def letterAction? : Char → Option Action
  | 'j' => some (.scroll .down 1)
  | 'k' => some (.scroll .up 1)
  | ' ' | 'f' => some .pageDown
  | 'b' => some .pageUp
  | 'g' => some .toStart
  | 'G' => some .toEnd
  | 'F' => some .toggleAuto
  | 'r' => some .reload
  | 'q' => some .quit
  | _ => none

/-- mirrors `key_to_action` -/
def Key.action? (k : Key) : Option Action :=
  if k.phase ≠ .press then none
  else match k.code with
    | .char c =>
      if c = 'c' && k.ctrl then some .quit
      else if k.ctrl || k.alt then none
      else letterAction? c
    | .down => some (.scroll .down 1)
    | .up => some (.scroll .up 1)
    | .pageDown => some .pageDown
    | .pageUp => some .pageUp
    | .home => some .toStart
    | .endKey => some .toEnd
    | .escape => some .quit
    | .other => none

/-! ## Events -/

/-- What the terminal reports. -/
inductive TerminalEvent
  | key (k : Key)
  | wheel (towards : Direction)
  | resized (width height : Nat)
  | other
  deriving DecidableEq, Repr

/-- Rows that a notch of the mouse wheel scrolls.
mirrors `MOUSE_SCROLL_LINES` -/
def wheelRows : Nat := 3

/-- mirrors `event_to_action` -/
def TerminalEvent.action? : TerminalEvent → Option Action
  | .key k => k.action?
  | .wheel towards => some (.scroll towards wheelRows)
  | .resized width height => some (.resize width height)
  | .other => none

end LogTable

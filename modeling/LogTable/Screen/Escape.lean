import LogTable.Keys
import LogTable.Screen.Display

/-!
# Escape sequences

What a terminal is sent to show a frame, and what it sends for keys and for the mouse wheel.
-/
namespace LogTable.Screen.Escape

/-! ## Output -/

/-- Takes the terminal: its other screen, and reports of the mouse. -/
def enter : String := "\x1b[?1049h\x1b[?1000h\x1b[?1006h"

/-- Gives the terminal back. -/
def leave : String := "\x1b[?1006l\x1b[?1000l\x1b[?1049l"

/-- The parameter that sets an ink; `base` is 30 for what is written and 40 for what is behind it. -/
def inkCode (base : Nat) : Ink → String
  | .black => toString base
  | .yellow => toString (base + 3)
  | .blue => toString (base + 4)
  | .brightYellow => toString (base + 63)
  | .brightWhite => toString (base + 67)
  | .rgb c =>
    let mark := base + 8
    s!"{mark};2;{c.red};{c.green};{c.blue}"

/-- Sets a style, whatever was set before. -/
def styleCode (s : Style) : String :=
  let codes := ["0"] ++ (if s.bold then ["1"] else []) ++ (if s.underlined then ["4"] else []) ++
    (s.fg.map (inkCode 30)).toList ++ (s.bg.map (inkCode 40)).toList
  "\x1b[" ++ ";".intercalate codes ++ "m"

/-- Writes a row; the style is set where it changes. -/
def rowCode (style : Option Style) : GridRow → String
  | [] => ""
  | c :: rest =>
    (if style = some c.style then "" else styleCode c.style) ++ c.text ++ rowCode (some c.style) rest

/-- Writes a frame, row by row from the top. -/
def frameCode (rows : List GridRow) : String :=
  String.join (rows.mapIdx fun y row =>
    let line := y + 1
    s!"\x1b[{line};1H" ++ rowCode none row)

/-! ## Input -/

/-- The character ends a sequence. -/
def isFinal (c : Char) : Bool := '@' ≤ c && c ≤ '~'

def press (code : KeyCode) : TerminalEvent := .key { code }

/-- A report of the mouse, of which the wheel counts alone. -/
def mouseEvent (report : List Char) : TerminalEvent :=
  match report.takeWhile (· ≠ ';') with
  | ['6', '4'] => .wheel .up
  | ['6', '5'] => .wheel .down
  | _ => .other

/-- What a sequence with these parameters and this end says. -/
def sequenceEvent (parameters : List Char) (final : Option Char) : TerminalEvent :=
  match parameters, final with
  | [], some 'A' => press .up
  | [], some 'B' => press .down
  | [], some 'H' => press .home
  | [], some 'F' => press .endKey
  | ['1'], some '~' => press .home
  | ['4'], some '~' => press .endKey
  | ['5'], some '~' => press .pageUp
  | ['6'], some '~' => press .pageDown
  | '<' :: report, some 'M' => mouseEvent report
  | _, _ => .other

/-- Reads what the terminal has sent. -/
def decode : List Char → List TerminalEvent
  | [] => []
  | '\x1b' :: '[' :: rest =>
    let final := rest.dropWhile (!isFinal ·)
    sequenceEvent (rest.takeWhile (!isFinal ·)) final.head? :: decode final.tail
  | '\x1b' :: 'O' :: c :: rest => sequenceEvent [] (some c) :: decode rest
  | '\x1b' :: rest => press .escape :: decode rest
  | '\x03' :: rest => .key { code := .char 'c', ctrl := true } :: decode rest
  | c :: rest => press (.char c) :: decode rest
termination_by cs => cs.length
decreasing_by
  · have := (List.dropWhile_suffix (l := rest) (!isFinal ·)).length_le
    simp
    omega
  all_goals simp
  omega

end LogTable.Screen.Escape

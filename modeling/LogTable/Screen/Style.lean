import LogTable.Line

/-!
# Styles and themes

A terminal draws a cell in an ink on a paper, perhaps bold or underlined; an ink not set is the terminal's
own. A theme gives the styles of what a format does not color: the header, the status line, and the text of
cells.
-/
namespace LogTable

inductive Ink
  | black | yellow | blue | brightYellow | brightWhite
  | rgb (c : Color)
  deriving DecidableEq, Repr

namespace Ink

/-- The number of one of the sixteen colors that a terminal has, or the color itself. -/
def code : Ink → String
  | .black => "ansi 0"
  | .yellow => "ansi 3"
  | .blue => "ansi 4"
  | .brightYellow => "ansi 11"
  | .brightWhite => "ansi 15"
  | .rgb c => c.text

def name : Ink → String
  | .black => "Black"
  | .yellow => "Yellow"
  | .blue => "Blue"
  | .brightYellow => "LightYellow"
  | .brightWhite => "White"
  | .rgb c => s!"Rgb({c.red}, {c.green}, {c.blue})"

end Ink

structure Style where
  fg : Option Ink := none
  bg : Option Ink := none
  bold : Bool := false
  underlined : Bool := false
  deriving DecidableEq, Repr

namespace Style

/-- Letters for what is set besides colors. -/
def marks (s : Style) : String := (if s.bold then "b" else "") ++ (if s.underlined then "u" else "")

/-- Names of what is set besides colors. -/
def markNames (s : Style) : String :=
  match (if s.bold then ["BOLD"] else []) ++ (if s.underlined then ["UNDERLINED"] else []) with
  | [] => "NONE"
  | names => " | ".intercalate names

end Style

/-- mirrors `ColorTheme` -/
structure Theme where
  text : Style := {}
  header : Style
  status : Style

namespace Theme

/-- mirrors `ColorTheme.default` -/
def standard : Theme where
  header := { fg := some .yellow, bold := true }
  status := { fg := some .brightWhite, bg := some .blue }

/-- For terminals without colors.
mirrors `ColorTheme.monochrome` -/
def monochrome : Theme where
  header := { bold := true, underlined := true }
  status := { fg := some .brightWhite, bg := some .black }

/-- mirrors `ColorTheme.high_contrast` -/
def highContrast : Theme where
  text := { fg := some .brightWhite }
  header := { fg := some .black, bg := some .brightYellow, bold := true }
  status := { fg := some .black, bg := some .brightWhite }

/-- The style of a cell: its own colors where it has them.
mirrors `cell_style` -/
def cell (theme : Theme) (c : Cell) : Style :=
  { theme.text with
    fg := (c.fg.map Ink.rgb).orElse fun _ => theme.text.fg
    bg := (c.bg.map Ink.rgb).orElse fun _ => theme.text.bg }

end Theme

end LogTable

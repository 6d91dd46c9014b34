import Chip8.Terminal.Canvas

/-! # Canvases as terminal text

A terminal is told where to write, and in which colours, by escape sequences. A
canvas becomes one text that goes through its rows and names a colour only
where it changes. -/

namespace Chip8.Terminal

/-- The number of a colour for letters. Ten more is that colour behind them. -/
def Color.number : Color → Nat
  | reset => 39
  | black => 30
  | red => 31
  | green => 32
  | yellow => 33
  | white => 97

/-- The character that starts an escape sequence. -/
def escape : Char := '\x1b'

def sequence (body : String) : String := String.singleton escape ++ "[" ++ body

/-- Moves to a place. Terminals count rows and columns from one. -/
def moveTo (x y : Nat) : String := sequence s!"{y + 1};{x + 1}H"

/-- Sets both colours. -/
def colorText (foreground background : Color) : String :=
  sequence s!"{foreground.number};{background.number + 10}m"

/-- Takes the screen over, without the cursor, and gives it back. -/
def enter : String := sequence "?1049h" ++ sequence "?25l"

def leave : String := sequence "0m" ++ sequence "?25h" ++ sequence "?1049l"

def bell : String := "\x07"

/-- The cells of a row as text, after a cell of some colours. A wide cluster
    covers the cells behind it. -/
def rowText (foreground background : Color) (covered : Nat) : List Cell → String
  | [] => ""
  | cell :: more =>
    match covered with
    | covered + 1 => rowText foreground background covered more
    | 0 =>
      let colors :=
        if cell.foreground = foreground ∧ cell.background = background then ""
        else colorText cell.foreground cell.background
      colors ++ String.ofList cell.glyph ++
        rowText cell.foreground cell.background (clusterWidth cell.glyph - 1) more

namespace Canvas

/-- A canvas as the text that paints it from the upper left corner on. -/
def terminalText (c : Canvas) : String :=
  String.join (c.rows.zipIdx.map fun (row, y) =>
    moveTo 0 y ++ colorText .reset .reset ++ rowText .reset .reset 0 row)

end Canvas

end Chip8.Terminal

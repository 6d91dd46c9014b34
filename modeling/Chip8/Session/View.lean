import Chip8.Session
import Chip8.Terminal.Canvas

/-! # The screen of a session

The display and the status line stand on the left; the mode, the registers, the
keypad and the stack stand in a narrow column on the right. A terminal without
room for all of it shows a single box that says so. -/

namespace Chip8.Session

open Terminal

/-- The width of the right column with its borders. -/
def columnWidth : Nat := 15 + 2

/-- The width that the screen needs. -/
def leastWidth : Nat := displayWidth + 2 + columnWidth

/-- The height that the screen needs. -/
def leastHeight : Nat := displayHeight + 2 + 1 + 2

def inColor (color : Color) : Style := { foreground := some color }

/-! ## Panels -/

/-- The rows of the display as lines, a block for a lit pixel. -/
def displayLines (d : Display) : List Line :=
  d.rows.map fun row =>
    [⟨row.map fun pixel => if pixel == lit then '█' else ' ', inColor .green⟩]

/-- The lines of a text. A carriage return before a line end belongs to it. -/
def textLines (text : String) : List String :=
  let parts := text.splitOn "\n"
  let parts := if parts.getLast? = some "" then parts.dropLast else parts
  parts.map fun part =>
    let cs := part.toList
    if cs.getLast? = some '\r' then String.ofList cs.dropLast else part

def modeLine (mode : Mode) : Line :=
  match mode with
  | .running => [⟨"RUNNING".toList, inColor .green⟩]
  | .awaiting _ => [⟨"KEY WAIT".toList, inColor .yellow⟩]

/-- Two registers side by side. -/
def registerPair (m : Machine) (k : Fin 8) : String :=
  let one (x : Nat) (value : UInt8) : String :=
    "V" ++ Text.hex 1 x ++ ": " ++ Text.hex 2 value.toNat
  one k m.registers[k.val] ++ "   " ++ one (k + 8) m.registers[k.val + 8]

def registerLines (m : Machine) : List String :=
  ["PC: " ++ Text.hex 3 m.pc.toNat ++ "  I: " ++ Text.hex 3 m.index.toNat,
   "DT: " ++ Text.hex 2 m.delay.toNat ++ "   ST: " ++ Text.hex 2 m.sound.toNat,
   ""] ++ (List.finRange 8).map (registerPair m)

/-- A row of keys. Those that are down are shown in reverse. -/
def keyLine (p : Keypad) (row : List (Char × Key)) : Line :=
  let key (k : Key) : Span :=
    ⟨(Text.hex 1 k).toList,
      if p.down.get k then { foreground := some .black, background := some .white } else {}⟩
  (row.map fun (_, k) => key k).intersperse ⟨[' '], {}⟩

/-- A return address with its depth. -/
def stackEntry (address : UInt16) (depth : Nat) : String :=
  Text.rightAligned 2 depth ++ " " ++ Text.address 3 address.toNat

/-- The first `rows` return addresses with their depths, innermost first. -/
def innermostEntries (stack : List UInt16) (rows : Nat) : List String :=
  (stack.zipIdx.reverse.take rows).map fun (address, depth) => stackEntry address depth

/-- The return addresses, innermost first, in at most `rows` lines. When they
    do not fit, the last line stands for the outermost ones. -/
def stackLines (stack : List UInt16) (rows : Nat) : List String :=
  let lines := innermostEntries stack rows
  if lines = [] then ["Empty"]
  else if rows < stack.length then lines.set (rows - 1) "..."
  else lines

/-- The lines of the stack panel in a box of some height. -/
def stackPanel (stack : List UInt16) (height : Nat) : List String :=
  stackLines stack (max (height - 2) 1)

/-! ## The whole screen -/

/-- The box of a terminal that is too small. -/
def drawTooSmall (c : Canvas) : Canvas :=
  let width := min 45 c.width
  let height := min 3 c.height
  let area : Area := ⟨(c.width - width + 1) / 2, (c.height - height + 1) / 2, width, height⟩
  (c.paint area (inColor .red)).drawPanel area "" .centre
    [.plain s!"Terminal is too small ({leastWidth}x{leastHeight} min)"]

def drawLeft (s : Session) (c : Canvas) : Canvas :=
  let width := c.width - columnWidth
  let height := displayHeight + 2
  let display : Area := ⟨0, 0, width, height⟩
  let status : Area := ⟨0, height, width, c.height - height⟩
  (c.drawPanel display " Display " .centre (displayLines s.shown)).drawPanel status " Status "
    .left ((textLines s.status).map .plain)

def drawRight (s : Session) (c : Canvas) : Canvas :=
  let m := s.ticker.machine
  let x := c.width - columnWidth
  let state : Area := ⟨x, 0, columnWidth, 1 + 2⟩
  let registers : Area := ⟨x, 3, columnWidth, 11 + 2⟩
  let keypad : Area := ⟨x, 16, columnWidth, 4 + 2⟩
  let stack : Area := ⟨x, 22, columnWidth, c.height - 22⟩
  let c := c.drawPanel state " State " .centre [modeLine m.mode]
  let c := c.drawPanel registers " Registers " .left ((registerLines m).map .plain)
  let c := c.drawPanel keypad " Keypad " .centre (keyRows.map (keyLine m.keypad))
  c.drawPanel stack s!" Stack {m.stack.length}/{callLimit} " .centre
    ((stackPanel m.stack stack.height).map .plain)

/-- The screen of a session on a terminal of some size. -/
def draw (s : Session) (width height : Nat) : Canvas :=
  let c := Canvas.blank width height
  if width < leastWidth ∨ height < leastHeight then drawTooSmall c
  else s.drawRight (s.drawLeft c)

end Chip8.Session

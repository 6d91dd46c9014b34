import Chip8.Terminal.ClusterWidth

/-! # Canvas

A terminal screen as rows of cells. Everything drawn outside is lost, and a
later drawing covers an earlier one cell by cell, so panels need not know of
each other. -/

namespace Chip8.Terminal

inductive Color where
  /-- The terminal's own. -/
  | reset
  | black
  | red
  | green
  | yellow
  | white
deriving DecidableEq

def Color.name : Color → String
  | reset => "Reset"
  | black => "Black"
  | red => "Red"
  | green => "Green"
  | yellow => "Yellow"
  | white => "White"

/-- Colours to put on a cell. What is missing stays as it was. -/
structure Style where
  foreground : Option Color := none
  background : Option Color := none
deriving DecidableEq

structure Cell where
  /-- The cluster that is shown. A wide one covers the cells behind it. -/
  glyph : List Char := [' ']
  foreground : Color := .reset
  background : Color := .reset
deriving DecidableEq

/-- Puts colours on a cell. -/
def Cell.paint (c : Cell) (style : Style) : Cell :=
  { c with
    foreground := style.foreground.getD c.foreground
    background := style.background.getD c.background }

/-- A place and a size on a screen. -/
structure Area where
  x : Nat
  y : Nat
  width : Nat
  height : Nat
deriving DecidableEq

/-- What a border leaves of an area. -/
def Area.inner (a : Area) : Area := ⟨a.x + 1, a.y + 1, a.width - 2, a.height - 2⟩

/-- A part of a line: characters of one style. -/
structure Span where
  text : List Char
  style : Style := {}

abbrev Line := List Span

def Line.plain (text : String) : Line := [⟨text.toList, {}⟩]

/-- What goes into one cell: a cluster with a style. -/
structure Piece where
  cluster : List Char
  style : Style := {}
deriving DecidableEq

/-- The cells that a piece takes. -/
def Piece.width (p : Piece) : Nat := clusterWidth p.cluster

/-- The pieces of a line. No cluster goes on from one span to the next, and
    controls are left out. -/
def Line.pieces (line : Line) : List Piece :=
  line.flatMap fun span =>
    ((Text.clusters span.text).filter fun cluster => !cluster.any isControl).map (⟨·, span.style⟩)

/-- The cells that pieces take. -/
def piecesWidth (pieces : List Piece) : Nat := pieces.foldl (fun width piece => width + piece.width) 0

/-- The pieces that fit into `room` of all `width` cells. The first that does
    not fit ends the line, but one wider than all cells together is left out. -/
def fitting (width : Nat) : Nat → List Piece → List Piece
  | _, [] => []
  | room, piece :: more =>
    if width < piece.width then fitting width room more
    else if room < piece.width then []
    else piece :: fitting width (room - piece.width) more

inductive Alignment where
  | left
  | centre
deriving DecidableEq

structure Canvas where
  width : Nat
  height : Nat
  cells : Array Cell

namespace Canvas

def blank (width height : Nat) : Canvas := ⟨width, height, Array.replicate (width * height) {}⟩

/-- Changes the cell of column `x` and row `y`, if there is one. -/
def change (c : Canvas) (x y : Nat) (f : Cell → Cell) : Canvas :=
  if x < c.width ∧ y < c.height then { c with cells := c.cells.modify (y * c.width + x) f } else c

/-- Puts a cluster with a style into one cell. -/
def put (c : Canvas) (x y : Nat) (glyph : List Char) (style : Style) : Canvas :=
  c.change x y fun cell => { cell.paint style with glyph := glyph }

/-- The cells of an area, row by row. -/
def places (a : Area) : List (Nat × Nat) :=
  (List.range a.height).flatMap fun j => (List.range a.width).map fun i => (a.x + i, a.y + j)

/-- Puts a style on all cells of an area. -/
def paint (c : Canvas) (a : Area) (style : Style) : Canvas :=
  (places a).foldl (fun c (x, y) => c.change x y (·.paint style)) c

/-- The border of a box at one of its cells. In a box of one row or column the
    top wins over the bottom and the left over the right. -/
def borderGlyph? (a : Area) (x y : Nat) : Option Char :=
  let left := x = a.x
  let right := x + 1 = a.x + a.width
  let top := y = a.y
  let bottom := y + 1 = a.y + a.height
  if left ∧ top then some '┌'
  else if left ∧ bottom then some '└'
  else if right ∧ top then some '┐'
  else if right ∧ bottom then some '┘'
  else if top ∨ bottom then some '─'
  else if left ∨ right then some '│'
  else none

/-- Draws pieces one after another from a cell on. One that takes no cell is
    left out. -/
def drawPieces (c : Canvas) (x y : Nat) : List Piece → Canvas
  | [] => c
  | piece :: more =>
    match piece.width with
    | 0 => c.drawPieces x y more
    | w => (c.put x y piece.cluster piece.style).drawPieces (x + w) y more

/-- Draws a box with a title in its upper border. -/
def drawBox (c : Canvas) (a : Area) (title : String) : Canvas :=
  let bordered := (places a).foldl (fun c (x, y) =>
    match borderGlyph? a x y with
    | some glyph => c.put x y [glyph] {}
    | none => c) c
  let room := a.width - 2
  if a.height = 0 then bordered
  else bordered.drawPieces (a.x + 1) a.y (fitting room room (Line.plain title).pieces)

/-- Draws a line into the row `y` of an area. -/
def drawLine (c : Canvas) (a : Area) (y : Nat) (alignment : Alignment) (line : Line) : Canvas :=
  let pieces := fitting a.width a.width line.pieces
  let offset := match alignment with
    | .left => 0
    | .centre => a.width / 2 - piecesWidth pieces / 2
  c.drawPieces (a.x + offset) y pieces

/-- Draws lines from the top of an area, as many as it has rows. -/
def drawLines (c : Canvas) (a : Area) (alignment : Alignment) (lines : List Line) : Canvas :=
  (lines.take a.height).zipIdx.foldl (fun c (line, j) => c.drawLine a (a.y + j) alignment line) c

/-- Draws a box with lines inside. -/
def drawPanel (c : Canvas) (a : Area) (title : String) (alignment : Alignment)
    (lines : List Line) : Canvas :=
  (c.drawBox a title).drawLines a.inner alignment lines

/-- The rows of cells from top to bottom. -/
def rows (c : Canvas) : List (List Cell) :=
  (List.range c.height).map fun y => (c.cells.extract (y * c.width) ((y + 1) * c.width)).toList

end Canvas

end Chip8.Terminal

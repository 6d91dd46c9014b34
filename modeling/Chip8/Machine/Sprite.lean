import Chip8.Machine.Arithmetic

/-! # Sprites

A sprite is drawn row after row and each row from left to right. The pixels are
counted in the order of the whole display: a bit beyond the right edge falls into
the next row, unless the edge clips it, and a bit beyond the last pixel falls
nowhere. Drawing inverts the pixel under every set bit and puts into VF whether
one of them was lit. -/

namespace Chip8

/-- Whether the bit of column `column` of a row of a sprite is set. The leftmost
    column is the highest bit. -/
def spriteBit (row : UInt8) (column : Nat) : Bool := row.toNat.testBit (7 - column)

/-- The pixel of column `column` of row `row` of a sprite at `x`, `y`. -/
def spritePixel? (edge : SpriteEdge) (x y row column : Nat) : Option (Fin displaySize) :=
  if edge = .clip ∧ displayWidth ≤ x + column then none
  else
    let place := pixelIndex (x + column) (y + row)
    if h : place < displaySize then some ⟨place, h⟩ else none

/-- A display with a sprite drawn in part, and whether that erased a lit pixel. -/
structure Drawing where
  display : Display
  erased : Bool

namespace Drawing

/-- Inverts a pixel. One that was lit is erased. -/
def invert (d : Drawing) (p : Fin displaySize) : Drawing where
  display := d.display.toggle p
  erased := d.erased || d.display.pixels.get p == lit

/-- Draws the given columns of a row. The first one without a pixel ends the row,
    whether its bit is set or not. -/
def drawColumns (edge : SpriteEdge) (x y row : Nat) (bits : UInt8) :
    (columns : List Nat) → Drawing → Drawing
  | [], d => d
  | column :: columns, d =>
    match spritePixel? edge x y row column with
    | none => d
    | some p =>
      drawColumns edge x y row bits columns (if spriteBit bits column then d.invert p else d)

/-- Draws the eight columns of a row. -/
def drawRow (edge : SpriteEdge) (x y row : Nat) (bits : UInt8) (d : Drawing) : Drawing :=
  d.drawColumns edge x y row bits (List.range 8)

/-- Draws the rows of a sprite from top to bottom. A row that ends early does not
    end the sprite. -/
def drawRows (edge : SpriteEdge) (x y : Nat) (sprite : List UInt8) (d : Drawing) : Drawing :=
  sprite.zipIdx.foldl (fun d (bits, row) => d.drawRow edge x y row bits) d

end Drawing

namespace Machine

/-- Draws the `n` bytes at I with the corner at VX, VY. -/
def executeDraw (m : Machine) (x y : Register) (n : Nibble) : Except Fault Machine :=
  (m.memory.slice m.index.toNat n).map fun sprite =>
    let start : Drawing := ⟨m.display, false⟩
    let drawn := start.drawRows m.edge (m.register x).toNat (m.register y).toNat sprite
    { m with display := drawn.display }.setFlag drawn.erased

end Machine

end Chip8

import Chip8.Layout

/-! # Display

64 by 32 pixels, row after row, one byte each: 255 for a lit pixel and 0 for a
dark one. The bytes are kept as they are, because a saved state may come with
others and has to be refused. -/

namespace Chip8

/-- The place of column `x` of row `y` among all pixels. No bound is checked. -/
def pixelIndex (x y : Nat) : Nat := y * displayWidth + x

theorem pixelIndex_lt {x y : Nat} (h : x < displayWidth ∧ y < displayHeight) :
    pixelIndex x y < displaySize := by
  obtain ⟨hx, hy⟩ := h
  simp only [pixelIndex, displayWidth, displayHeight, displaySize] at *
  omega

structure Display where
  pixels : Vector UInt8 displaySize
deriving DecidableEq

namespace Display

def blank : Display := ⟨Vector.replicate displaySize 0⟩

/-- Whether the pixel at column `x` and row `y` is lit. None is outside. -/
def isLit (d : Display) (x y : Nat) : Bool :=
  if h : x < displayWidth ∧ y < displayHeight then
    have := pixelIndex_lt h
    d.pixels[pixelIndex x y] == lit
  else false

/-- Inverts one pixel. -/
def toggle (d : Display) (p : Fin displaySize) : Display :=
  ⟨d.pixels.set p (d.pixels[p] ^^^ lit)⟩

/-- The bytes of row `y`. -/
def row (d : Display) (y : Nat) : List UInt8 :=
  (d.pixels.extract (y * displayWidth) ((y + 1) * displayWidth)).toList

/-- The rows from top to bottom. -/
def rows (d : Display) : List (List UInt8) := (List.range displayHeight).map d.row

/-- A row as text, a hash for a lit pixel and a full stop for any other. -/
def rowText (row : List UInt8) : List Char :=
  row.map fun pixel => if pixel == lit then '#' else '.'

/-- The rows as text, with a line end between two rows. -/
def text (d : Display) : String :=
  String.intercalate "\n" (d.rows.map fun row => String.ofList (rowText row))

/-- How many pixels are not dark. -/
def litCount (d : Display) : Nat := d.pixels.toList.countP (· != 0)

end Display

end Chip8

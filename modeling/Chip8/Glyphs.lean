import Chip8.Layout

/-! # Glyphs

The sixteen hexadecimal digits as sprites, four pixels wide and five rows tall.
They lie at the bottom of memory, where programs expect them. -/

namespace Chip8.Glyphs

/-- The address of the glyph of 0. -/
abbrev start : Nat := 0

/-- Rows of a glyph, one byte each. -/
abbrev height : Nat := 5

/-- Bytes of all glyphs. -/
abbrev size : Nat := 16 * height

def bytes : Vector UInt8 size := #v[
  0xF0, 0x90, 0x90, 0x90, 0xF0,
  0x20, 0x60, 0x20, 0x20, 0x70,
  0xF0, 0x10, 0xF0, 0x80, 0xF0,
  0xF0, 0x10, 0xF0, 0x10, 0xF0,
  0x90, 0x90, 0xF0, 0x10, 0x10,
  0xF0, 0x80, 0xF0, 0x10, 0xF0,
  0xF0, 0x80, 0xF0, 0x90, 0xF0,
  0xF0, 0x10, 0x20, 0x40, 0x40,
  0xF0, 0x90, 0xF0, 0x90, 0xF0,
  0xF0, 0x90, 0xF0, 0x10, 0xF0,
  0xF0, 0x90, 0xF0, 0x90, 0x90,
  0xE0, 0x90, 0xE0, 0x90, 0xE0,
  0xF0, 0x80, 0x80, 0x80, 0xF0,
  0xE0, 0x90, 0x90, 0x90, 0xE0,
  0xF0, 0x80, 0xF0, 0x80, 0xF0,
  0xF0, 0x80, 0xF0, 0x80, 0x80]

end Chip8.Glyphs

/-! # Fixed numbers

The sizes and addresses that every machine shares. -/

namespace Chip8

/-- Bytes of memory. -/
abbrev memorySize : Nat := 4096

/-- Where a program starts; the memory below is the interpreter's own. -/
abbrev programStart : Nat := 0x200

/-- The longest program. -/
abbrev programLimit : Nat := memorySize - programStart

/-- Nested calls. -/
abbrev callLimit : Nat := 16

/-- Columns of the display. -/
abbrev displayWidth : Nat := 64

/-- Rows of the display. -/
abbrev displayHeight : Nat := 32

/-- Pixels of the display. -/
abbrev displaySize : Nat := displayWidth * displayHeight

/-- The byte of a lit pixel; a dark one is 0. -/
abbrev lit : UInt8 := 255

end Chip8

/-! # Random bytes

Programs ask for random bytes one at a time. Dice are any unending row of bytes
and the number of those that were used. Dice with a seed take the row from a
counter whose bits are mixed well. -/

namespace Chip8

structure Dice where
  rolls : Nat → UInt8
  used : Nat := 0

namespace Dice

/-- The next byte. -/
def top (d : Dice) : UInt8 := d.rolls d.used

/-- The dice after the next byte. -/
def rest (d : Dice) : Dice := { d with used := d.used + 1 }

/-- Mixes the bits of a word, so that neighbouring words have nothing in common. -/
def mix (z : UInt64) : UInt64 :=
  let z := (z ^^^ (z >>> 30)) * 0xBF58476D1CE4E5B9
  let z := (z ^^^ (z >>> 27)) * 0x94D049BB133111EB
  z ^^^ (z >>> 31)

/-- Dice whose bytes are set by a seed. -/
def ofSeed (seed : UInt64) : Dice where
  rolls k := (mix (seed + (UInt64.ofNat k + 1) * 0x9E3779B97F4A7C15) >>> 56).toUInt8

end Dice

end Chip8

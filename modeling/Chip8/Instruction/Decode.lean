import Chip8.Instruction

/-! # Decoding

The highest nibble of a word selects a family. Most families are one
instruction; family 0 is told apart by the whole word, 8 and E by the lowest
nibble, F by the low byte. Bits that select nothing and belong to no operand are
not looked at, so `5xyn` compares for every n. -/

namespace Chip8

/-- The operation of a word `8xyN`. -/
def Arithmetic.ofNibble? (n : Nibble) : Option Arithmetic :=
  match n.val with
  | 0x0 => some copy
  | 0x1 => some or
  | 0x2 => some and
  | 0x3 => some xor
  | 0x4 => some add
  | 0x5 => some subtract
  | 0x6 => some shiftRight
  | 0x7 => some subtractFrom
  | 0xE => some shiftLeft
  | _ => none

namespace Instruction

/-- A word of family F. -/
def decodeMiscellaneous (word : UInt16) (x : Register) (nn : UInt8) : Instruction :=
  match nn.toNat with
  | 0x07 => .readDelay x
  | 0x0A => .awaitKey x
  | 0x15 => .setDelay x
  | 0x18 => .setSound x
  | 0x1E => .addIndex x
  | 0x29 => .glyph x
  | 0x33 => .digits x
  | 0x55 => .store x
  | 0x65 => .recall x
  | _ => .unknown word

/-- The instruction of a word. -/
def decode (word : UInt16) : Instruction :=
  let x := Nibble.ofWord word 8
  let y := Nibble.ofWord word 4
  let n := Nibble.ofWord word 0
  let nn := word.toUInt8
  let nnn := word &&& 0x0FFF
  match (Nibble.ofWord word 12).val with
  | 0x0 => if word = 0x00E0 then .clear else if word = 0x00EE then .leave else .unknown word
  | 0x1 => .jump nnn
  | 0x2 => .call nnn
  | 0x3 => .skipEqual x nn
  | 0x4 => .skipNotEqual x nn
  | 0x5 => .skipSame x y
  | 0x6 => .set x nn
  | 0x7 => .increase x nn
  | 0x8 =>
    match Arithmetic.ofNibble? n with
    | some operation => .arithmetic x y operation
    | none => .unknown word
  | 0x9 => .skipDifferent x y
  | 0xA => .setIndex nnn
  | 0xB => .jumpPlus nnn
  | 0xC => .random x nn
  | 0xD => .draw x y n
  | 0xE =>
    if n = 0xE then .skipPressed x
    else if n = 0x1 then .skipReleased x
    else .unknown word
  | _ => decodeMiscellaneous word x nn

end Instruction

end Chip8

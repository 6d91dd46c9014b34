import Chip8.Nibble

/-! # Instructions

What a word of two bytes asks for. The letters of the operands are the usual
ones: `x` and `y` are registers, `n` is a nibble, `nn` a byte and `nnn` an
address of twelve bits. -/

namespace Chip8

/-- The number of a register. -/
abbrev Register := Nibble

/-- The operations of the words `8xyN`. -/
inductive Arithmetic where
  /-- `8xy0`: VX becomes VY. -/
  | copy
  /-- `8xy1`: VX becomes VX or VY, bit by bit. -/
  | or
  /-- `8xy2`: VX becomes VX and VY, bit by bit. -/
  | and
  /-- `8xy3`: VX becomes VX exclusive or VY, bit by bit. -/
  | xor
  /-- `8xy4`: VX becomes VX + VY, VF the carry. -/
  | add
  /-- `8xy5`: VX becomes VX - VY, VF 1 unless a bit is borrowed. -/
  | subtract
  /-- `8xy6`: VX loses its lowest bit to VF. VY plays no part. -/
  | shiftRight
  /-- `8xy7`: VX becomes VY - VX, VF 1 unless a bit is borrowed. -/
  | subtractFrom
  /-- `8xyE`: VX loses its highest bit to VF. VY plays no part. -/
  | shiftLeft
deriving DecidableEq

inductive Instruction where
  /-- `1nnn`: go to nnn. -/
  | jump (nnn : UInt16)
  /-- `Bnnn`: go to nnn + V0. -/
  | jumpPlus (nnn : UInt16)
  /-- `2nnn`: call the routine at nnn. -/
  | call (nnn : UInt16)
  /-- `00EE`: return from a routine. -/
  | leave
  /-- `3xnn`: skip the next word if VX is nn. -/
  | skipEqual (x : Register) (nn : UInt8)
  /-- `4xnn`: skip the next word unless VX is nn. -/
  | skipNotEqual (x : Register) (nn : UInt8)
  /-- `5xyn`: skip the next word if VX is VY. -/
  | skipSame (x y : Register)
  /-- `9xyn`: skip the next word unless VX is VY. -/
  | skipDifferent (x y : Register)
  /-- `6xnn`: VX becomes nn. -/
  | set (x : Register) (nn : UInt8)
  /-- `7xnn`: VX becomes VX + nn, and VF stays. -/
  | increase (x : Register) (nn : UInt8)
  /-- `Annn`: I becomes nnn. -/
  | setIndex (nnn : UInt16)
  /-- `Fx1E`: I becomes I + VX. -/
  | addIndex (x : Register)
  /-- `8xyN`. -/
  | arithmetic (x y : Register) (operation : Arithmetic)
  /-- `Cxnn`: VX becomes a random byte, masked by nn. -/
  | random (x : Register) (nn : UInt8)
  /-- `00E0`: clear the display. -/
  | clear
  /-- `Dxyn`: draw the n rows at I with the corner at VX, VY. -/
  | draw (x y : Register) (n : Nibble)
  /-- `ExnE`: skip the next word if key VX is down. -/
  | skipPressed (x : Register)
  /-- `Exn1`: skip the next word unless key VX is down. -/
  | skipReleased (x : Register)
  /-- `Fx0A`: wait for a key and put its number into VX. -/
  | awaitKey (x : Register)
  /-- `Fx07`: VX becomes the delay timer. -/
  | readDelay (x : Register)
  /-- `Fx15`: the delay timer becomes VX. -/
  | setDelay (x : Register)
  /-- `Fx18`: the sound timer becomes VX. -/
  | setSound (x : Register)
  /-- `Fx29`: I becomes the address of the glyph of VX. -/
  | glyph (x : Register)
  /-- `Fx33`: the decimal digits of VX are put at I. -/
  | digits (x : Register)
  /-- `Fx55`: V0 to VX are put at I, which moves behind them. -/
  | store (x : Register)
  /-- `Fx65`: V0 to VX are taken from I, which moves behind them. -/
  | recall (x : Register)
  /-- Any other word. It does nothing. -/
  | unknown (word : UInt16)
deriving DecidableEq

end Chip8

import Chip8.Machine

/-! # Arithmetic

Both operands are read before anything is written. The result goes to VX first
and the flag to VF last, so the flag wins when X is F. -/

namespace Chip8

/-- The result for VX from the values of VX and VY, and the flag for VF if the
    operation has one. -/
def Arithmetic.apply (operation : Arithmetic) (a b : UInt8) : UInt8 × Option Bool :=
  match operation with
  | copy => (b, none)
  | or => (a ||| b, none)
  | and => (a &&& b, none)
  | xor => (a ^^^ b, none)
  | add => (a + b, some (decide (256 ≤ a.toNat + b.toNat)))
  | subtract => (a - b, some (decide (b ≤ a)))
  | subtractFrom => (b - a, some (decide (a ≤ b)))
  | shiftRight => (a >>> 1, some (a &&& 1 == 1))
  | shiftLeft => (a <<< 1, some (decide (128 ≤ a)))

/-- The decimal digits of a byte, hundreds first. -/
def decimalDigits (value : UInt8) : List UInt8 :=
  [value / 100, value / 10 % 10, value % 10]

namespace Machine

/-- Puts a flag into VF. -/
def setFlag (m : Machine) (flag : Bool) : Machine := m.setRegister 0xF flag.toUInt8

def executeArithmetic (m : Machine) (x y : Register) (operation : Arithmetic) : Machine :=
  let (value, flag) := operation.apply (m.register x) (m.register y)
  let written := m.setRegister x value
  match flag with
  | some flag => written.setFlag flag
  | none => written

end Machine

end Chip8

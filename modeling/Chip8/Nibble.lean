/-! # Nibbles

A nibble is a value of four bits. Registers and keys are numbered by nibbles,
and every operand field of an instruction word is made of them. -/

namespace Chip8

/-- A value from 0 to 15: the number of a register or of a key. -/
abbrev Nibble := Fin 16

/-- Nibbles have numerals. -/
instance Nibble.neZero : @NeZero Nat Zero.ofOfNat0 16 := ⟨Nat.succ_ne_zero 15⟩

/-- The nibble of value `n`, when `n` fits. -/
def Nibble.ofNat? (n : Nat) : Option Nibble :=
  if h : n < 16 then some ⟨n, h⟩ else none

/-- The four bits of `word` that start at bit `shift`. -/
def Nibble.ofWord (word : UInt16) (shift : Nat) : Nibble :=
  ⟨(word.toNat >>> shift) % 16, Nat.mod_lt _ (by decide)⟩

/-- A nibble as a byte. -/
def Nibble.toByte (n : Nibble) : UInt8 := UInt8.ofNat n.val

end Chip8

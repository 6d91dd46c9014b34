import Chip8.Machine

/-! # Saved states

A saved state is everything of a machine that a program can tell, without the
mode and the treatment of the edge. A machine that waits for a key still has its
program counter on the word that waits, so running that word again waits again.

Restoring checks first: a state with too many return addresses or with a pixel
that is neither lit nor dark changes nothing. -/

namespace Chip8

structure SaveState where
  memory : Memory
  registers : Vector UInt8 16
  index : UInt16
  pc : UInt16
  /-- Return addresses, the oldest first. -/
  stack : List UInt16
  delay : UInt8
  sound : UInt8
  display : Display
  keypad : Keypad
deriving DecidableEq

namespace SaveState

/-- Whether a byte is a pixel. -/
def isPixel (byte : UInt8) : Bool := byte == 0 || byte == lit

/-- What is wrong with a state: the length of its stack before its pixels, and
    the first bad pixel of several. -/
def fault? (s : SaveState) : Option SaveFault :=
  if callLimit < s.stack.length then some (.tooManyCalls s.stack.length)
  else (s.display.pixels.toList.find? (!isPixel ·)).map .badPixel

end SaveState

namespace Machine

/-- The state of the machine. -/
def saveState (m : Machine) : SaveState where
  memory := m.memory
  registers := m.registers
  index := m.index
  pc := m.pc
  stack := m.stack
  delay := m.delay
  sound := m.sound
  display := m.display
  keypad := m.keypad

/-- Takes the state of the machine, and says so. -/
def save (m : Machine) : Outcome SaveState := ⟨.ok m.saveState, m, [.saving m.pc]⟩

/-- The machine in a saved state, running. -/
def withState (m : Machine) (s : SaveState) : Machine where
  memory := s.memory
  display := s.display
  pc := s.pc
  index := s.index
  registers := s.registers
  stack := s.stack
  delay := s.delay
  sound := s.sound
  keypad := s.keypad
  mode := .running
  edge := m.edge

/-- Takes over a saved state, unless something is wrong with it. -/
def restore (s : SaveState) (m : Machine) : Outcome Unit :=
  match s.fault? with
  | some fault => ⟨.error (.badSave fault), m, []⟩
  | none => ⟨.ok (), m.withState s, [.restoring s.pc]⟩

end Machine

end Chip8

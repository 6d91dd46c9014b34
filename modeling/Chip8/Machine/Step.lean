import Chip8.Instruction.Decode
import Chip8.Machine.Execute

/-! # Steps

A step of a running machine takes the word at the program counter, moves past
it and executes it. A step of a waiting machine looks for a key and does
nothing else. -/

namespace Chip8.Machine

/-- A word of two bytes, the high one first. -/
def wordOf (high low : UInt8) : UInt16 := (high.toUInt16 <<< 8) ||| low.toUInt16

/-- The word at the program counter. -/
def nextWord (m : Machine) : Except Fault UInt16 :=
  match m.memory.read m.pc.toNat with
  | .error fault => .error fault
  | .ok high =>
    match m.memory.read (m.pc.toNat + 1) with
    | .error fault => .error fault
    | .ok low => .ok (wordOf high low)

/-- The machine after a word was taken. -/
def pastWord (m : Machine) : Machine := { m with pc := m.pc + 2 }

/-- Takes the word at the program counter and moves past it. -/
def fetch (m : Machine) : Outcome UInt16 :=
  match m.nextWord with
  | .error fault => ⟨.error fault, m, []⟩
  | .ok word => ⟨.ok word, m.pastWord, []⟩

/-- A step of a machine that waits for a key: the lowest one that is down goes
    to the register, and the machine runs on behind the word that waited. -/
def awaitKey (x : Register) (m : Machine) : Progress × Machine :=
  match m.keypad.lowest? with
  | some key => (.proceed, { m.setRegister x key.toByte with pc := m.pc + 2, mode := .running })
  | none => (.wait, m)

/-- One step, with the random byte that a `Cxnn` masks. -/
def step (byte : UInt8) (m : Machine) : Outcome Progress :=
  match m.mode with
  | .awaiting x => ⟨.ok (m.awaitKey x).1, (m.awaitKey x).2, []⟩
  | .running =>
    match m.nextWord with
    | .error fault => ⟨.error fault, m, []⟩
    | .ok word => m.pastWord.execute byte (Instruction.decode word)

/-- Whether the next step uses its random byte. -/
def rolls (m : Machine) : Bool :=
  match m.mode, m.nextWord with
  | .running, .ok word =>
    match Instruction.decode word with
    | .random _ _ => true
    | _ => false
  | _, _ => false

end Chip8.Machine

import Chip8.Display
import Chip8.Instruction
import Chip8.Keypad
import Chip8.Memory
import Chip8.Notice

/-! # The machine

The whole state of a machine, and the operations on it that run no program:
starting, loading, keys and timers. -/

namespace Chip8

/-- What becomes of sprite pixels beyond the right edge of the display. -/
inductive SpriteEdge where
  /-- They go on in the next row. -/
  | spill
  /-- They are left out. -/
  | clip
deriving DecidableEq

/-- What the machine does at its next step. -/
inductive Mode where
  /-- It executes the word at its program counter. -/
  | running
  /-- It waits for a key and puts its number into a register. -/
  | awaiting (x : Register)
deriving DecidableEq

/-- What became of a step that did not fail. -/
inductive Progress where
  | proceed
  | wait
deriving DecidableEq

structure Machine where
  memory : Memory
  display : Display
  pc : UInt16
  index : UInt16
  registers : Vector UInt8 16
  /-- Return addresses, the oldest first. -/
  stack : List UInt16
  delay : UInt8
  sound : UInt8
  keypad : Keypad
  mode : Mode
  edge : SpriteEdge
deriving DecidableEq

/-- What an operation came to: its answer or the fault that stopped it, the
    machine that it left, and what it had to say. -/
structure Outcome (α : Type) where
  result : Except Fault α
  machine : Machine
  notices : List Notice := []

namespace Machine

/-- A machine that was just switched on. -/
def start (edge : SpriteEdge) : Machine where
  memory := .fresh
  display := .blank
  pc := UInt16.ofNat programStart
  index := 0
  registers := Vector.replicate 16 0
  stack := []
  delay := 0
  sound := 0
  keypad := .released
  mode := .running
  edge := edge

/-- Switches the machine off and on. How it treats the edge is kept. -/
def reset (m : Machine) : Machine := start m.edge

/-- Resets the machine and loads a program, unless that is too large. Then
    nothing is reset either. -/
def load (program : List UInt8) (m : Machine) : Outcome Unit :=
  match Memory.fresh.load program with
  | .error fault => ⟨.error fault, m, []⟩
  | .ok memory =>
    ⟨.ok (), { m.reset with memory := memory }, [.resetting, .programLoaded program.length]⟩

/-- Loads a program from what came of reading the file at `path`. -/
def loadFile (path : String) (contents : Except File.Fault ByteArray) (m : Machine) :
    Outcome Unit :=
  match contents with
  | .error cause => ⟨.error (.programUnreadable path cause), m, []⟩
  | .ok bytes => m.load bytes.toList

/-- The register `x`. -/
def register (m : Machine) (x : Register) : UInt8 := m.registers[x]

def setRegister (m : Machine) (x : Register) (value : UInt8) : Machine :=
  { m with registers := m.registers.set x value }

/-! ## Keys -/

def setKey (m : Machine) (key : Key) (down : Bool) : Machine :=
  { m with keypad := m.keypad.set key down }

def press (m : Machine) (symbol : Char) : Machine :=
  { m with keypad := m.keypad.press symbol }

def release (m : Machine) (symbol : Char) : Machine :=
  { m with keypad := m.keypad.release symbol }

/-! ## Timers -/

/-- A timer after one tick. It stops at zero. -/
def countDown (timer : UInt8) : UInt8 := if timer = 0 then 0 else timer - 1

/-- One tick of both timers. The machine beeps when the sound timer runs out. -/
def tickTimers (m : Machine) : Bool × Machine :=
  (m.sound == 1, { m with delay := countDown m.delay, sound := countDown m.sound })

end Machine

end Chip8

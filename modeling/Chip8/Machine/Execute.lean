import Chip8.Machine.Sprite

/-! # Execution

One instruction, after the program counter has moved past its word. An
instruction that fails changes nothing. -/

namespace Chip8.Machine

/-- Moves past one more word if a condition holds. -/
def skipIf (m : Machine) (condition : Bool) : Machine :=
  if condition then { m with pc := m.pc + 2 } else m

/-- The registers from V0 to VX. -/
def lowRegisters (m : Machine) (x : Register) : List UInt8 :=
  m.registers.toList.take (x + 1)

/-- Puts bytes into the registers from V0 on. -/
def setLowRegisters (m : Machine) (bytes : List UInt8) : Machine :=
  { m with registers := Vector.ofFn fun k => (bytes[k.val]?).getD m.registers[k] }

/-- Moves I behind the registers from V0 to VX. -/
def advanceIndex (m : Machine) (x : Register) : Machine :=
  { m with index := m.index + UInt16.ofNat (x + 1) }

def executeCall (m : Machine) (target : UInt16) : Except Fault Machine :=
  if callLimit ≤ m.stack.length then .error .stackOverflow
  else .ok { m with stack := m.stack ++ [m.pc], pc := target }

def executeLeave (m : Machine) : Except Fault Machine :=
  match m.stack.getLast? with
  | none => .error .stackUnderflow
  | some caller => .ok { m with stack := m.stack.dropLast, pc := caller }

def executeDigits (m : Machine) (x : Register) : Except Fault Machine :=
  (m.memory.writeBytes m.index.toNat (decimalDigits (m.register x))).map fun memory =>
    { m with memory := memory }

def executeStore (m : Machine) (x : Register) : Except Fault Machine :=
  (m.memory.writeBytes m.index.toNat (m.lowRegisters x)).map fun memory =>
    { m with memory := memory }.advanceIndex x

def executeRecall (m : Machine) (x : Register) : Except Fault Machine :=
  (m.memory.slice m.index.toNat (x + 1)).map fun bytes =>
    (m.setLowRegisters bytes).advanceIndex x

/-- Takes the lowest key that is down. Without one the machine goes back to the
    word and waits. -/
def executeAwaitKey (m : Machine) (x : Register) : Progress × Machine :=
  match m.keypad.lowest? with
  | some key => (.proceed, m.setRegister x key.toByte)
  | none => (.wait, { m with pc := m.pc - 2, mode := .awaiting x })

/-- The machine after an instruction, with the random byte that a `Cxnn` masks. -/
def effect (byte : UInt8) (m : Machine) : Instruction → Except Fault Machine
  | .jump nnn => .ok { m with pc := nnn }
  | .jumpPlus nnn => .ok { m with pc := nnn + (m.register 0).toUInt16 }
  | .call nnn => m.executeCall nnn
  | .leave => m.executeLeave
  | .skipEqual x nn => .ok (m.skipIf (m.register x == nn))
  | .skipNotEqual x nn => .ok (m.skipIf (m.register x != nn))
  | .skipSame x y => .ok (m.skipIf (m.register x == m.register y))
  | .skipDifferent x y => .ok (m.skipIf (m.register x != m.register y))
  | .set x nn => .ok (m.setRegister x nn)
  | .increase x nn => .ok (m.setRegister x (m.register x + nn))
  | .setIndex nnn => .ok { m with index := nnn }
  | .addIndex x => .ok { m with index := m.index + (m.register x).toUInt16 }
  | .arithmetic x y operation => .ok (m.executeArithmetic x y operation)
  | .random x nn => .ok (m.setRegister x (byte &&& nn))
  | .clear => .ok { m with display := .blank }
  | .draw x y n => m.executeDraw x y n
  | .skipPressed x => .ok (m.skipIf (m.keypad.isDown (m.register x)))
  | .skipReleased x => .ok (m.skipIf (!m.keypad.isDown (m.register x)))
  | .awaitKey x => .ok (m.executeAwaitKey x).2
  | .readDelay x => .ok (m.setRegister x m.delay)
  | .setDelay x => .ok { m with delay := m.register x }
  | .setSound x => .ok { m with sound := m.register x }
  | .glyph x =>
    .ok { m with index := UInt16.ofNat (Glyphs.start + (m.register x).toNat * Glyphs.height) }
  | .digits x => m.executeDigits x
  | .store x => m.executeStore x
  | .recall x => m.executeRecall x
  | .unknown _ => .ok m

/-- Whether an instruction leaves the machine waiting for a key. -/
def progressOf (m : Machine) : Instruction → Progress
  | .awaitKey x => (m.executeAwaitKey x).1
  | _ => .proceed

/-- What an instruction has to say: a word that is none names the address that
    it was taken from. -/
def noticesOf (m : Machine) : Instruction → List Notice
  | .unknown word => [.unknownWord word (m.pc - 2)]
  | _ => []

/-- Executes one instruction. -/
def execute (byte : UInt8) (instruction : Instruction) (m : Machine) : Outcome Progress :=
  match m.effect byte instruction with
  | .ok after => ⟨.ok (m.progressOf instruction), after, m.noticesOf instruction⟩
  | .error fault => ⟨.error fault, m, []⟩

end Chip8.Machine

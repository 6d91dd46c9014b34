-- SUMMARY: What an instruction that succeeds does to each part of the machine.
import Chip8.Machine.Execute
import Chip8.Proofs.Memory
import Chip8.Proofs.Sprite

/-! # The effect of instructions

For each part of the machine, what it is after an instruction. An invariant of
all instructions is then a fact on the few that touch the parts it speaks of. -/

namespace Chip8

namespace Machine

variable {m after : Machine} {byte : UInt8} {i : Instruction}

/-! ## Small updates -/

theorem skipIf_eq (m : Machine) (condition : Bool) :
    m.skipIf condition = { m with pc := if condition then m.pc + 2 else m.pc } := by
  cases condition <;> rfl

theorem executeArithmetic_eq (m : Machine) (x y : Register) (operation : Arithmetic) :
    ∃ registers, m.executeArithmetic x y operation = { m with registers := registers } := by
  cases operation <;> exact ⟨_, rfl⟩

theorem setLowRegisters_eq (m : Machine) (bytes : List UInt8) :
    ∃ registers, m.setLowRegisters bytes = { m with registers := registers } :=
  ⟨_, rfl⟩

theorem executeAwaitKey_of_some {key : Key} (x : Register) (h : m.keypad.lowest? = some key) :
    m.executeAwaitKey x = (.proceed, m.setRegister x key.toByte) := by
  simp [executeAwaitKey, h]

theorem executeAwaitKey_of_none (x : Register) (h : m.keypad.lowest? = none) :
    m.executeAwaitKey x = (.wait, { m with pc := m.pc - 2, mode := .awaiting x }) := by
  simp [executeAwaitKey, h]

/-- A call that succeeds had room on the stack. -/
theorem executeCall_eq_ok {nnn : UInt16} (h : m.executeCall nnn = .ok after) :
    m.stack.length < callLimit ∧ after = { m with stack := m.stack ++ [m.pc], pc := nnn } := by
  unfold executeCall at h
  split at h
  · cases h
  · next hroom =>
    cases h
    exact ⟨Nat.lt_of_not_le hroom, rfl⟩

/-- A return that succeeds goes to the newest address on the stack. -/
theorem executeLeave_eq_ok (h : m.executeLeave = .ok after) :
    ∃ caller, m.stack.getLast? = some caller ∧
      after = { m with stack := m.stack.dropLast, pc := caller } := by
  unfold executeLeave at h
  split at h
  · cases h
  · next caller hcaller =>
    cases h
    exact ⟨caller, hcaller, rfl⟩

/-- Drawing inverts what the sprite at I covers, and the flag says whether a pixel
    of these was lit. -/
theorem executeDraw_eq (m : Machine) (x y : Register) (n : Nibble) :
    m.executeDraw x y n = (m.memory.slice m.index.toNat n).map fun sprite =>
      let pixels := covered m.edge (m.register x).toNat (m.register y).toNat sprite
      { m with display := m.display.toggleAll pixels }.setFlag (m.display.anyLit pixels) := by
  simp only [executeDraw, Drawing.drawRows_start]

/-- The pixels that a sprite of `n` rows at I covers. -/
def spritePixels (m : Machine) (x y : Register) (n : Nibble) : List (Fin displaySize) :=
  covered m.edge (m.register x).toNat (m.register y).toNat
    (m.memory.cells.extract m.index.toNat (m.index.toNat + n)).toList

theorem executeDraw_eq_ok {x y : Register} {n : Nibble} (h : m.executeDraw x y n = .ok after) :
    after = { m with display := m.display.toggleAll (m.spritePixels x y n) }.setFlag
      (m.display.anyLit (m.spritePixels x y n)) := by
  rw [executeDraw_eq] at h
  obtain ⟨sprite, hslice, rfl⟩ := map_eq_ok_iff.1 h
  obtain ⟨-, rfl⟩ := Memory.slice_eq_ok_iff.1 hslice
  rfl

/-! ## Parts of the machine -/

/-- The stack after an instruction that succeeds. -/
def stackAfter (m : Machine) : Instruction → List UInt16
  | .call _ => m.stack ++ [m.pc]
  | .leave => m.stack.dropLast
  | _ => m.stack

theorem stackAfter_call (m : Machine) (nnn : UInt16) :
    m.stackAfter (.call nnn) = m.stack ++ [m.pc] := rfl

theorem stackAfter_leave (m : Machine) : m.stackAfter .leave = m.stack.dropLast := rfl

/-- The display after an instruction that succeeds. -/
def displayAfter (m : Machine) : Instruction → Display
  | .clear => .blank
  | .draw x y n => m.display.toggleAll (m.spritePixels x y n)
  | _ => m.display

/-- The mode after an instruction that succeeds. -/
def modeAfter (m : Machine) : Instruction → Mode
  | .awaitKey x => if m.keypad.lowest?.isNone then .awaiting x else m.mode
  | _ => m.mode

/-- How an instruction that succeeds leaves the parts that few instructions touch. -/
structure Effect (m : Machine) (i : Instruction) (after : Machine) : Prop where
  stack : after.stack = m.stackAfter i
  display : after.display = m.displayAfter i
  mode : after.mode = m.modeAfter i
  keypad : after.keypad = m.keypad
  edge : after.edge = m.edge

theorem effect_of_executeAwaitKey (m : Machine) (x : Register) :
    m.Effect (.awaitKey x) (m.executeAwaitKey x).2 := by
  cases hkey : m.keypad.lowest? with
  | some key =>
    rw [executeAwaitKey_of_some x hkey]
    exact ⟨rfl, rfl, by simp [modeAfter, hkey, setRegister], rfl, rfl⟩
  | none =>
    rw [executeAwaitKey_of_none x hkey]
    exact ⟨rfl, rfl, by simp [modeAfter, hkey], rfl, rfl⟩

theorem effect_of_ok (h : m.effect byte i = .ok after) : m.Effect i after := by
  cases i with
  | call nnn =>
    obtain ⟨-, rfl⟩ := executeCall_eq_ok h
    exact ⟨rfl, rfl, rfl, rfl, rfl⟩
  | leave =>
    obtain ⟨_, -, rfl⟩ := executeLeave_eq_ok h
    exact ⟨rfl, rfl, rfl, rfl, rfl⟩
  | skipEqual | skipNotEqual | skipSame | skipDifferent | skipPressed | skipReleased =>
    cases h
    rw [skipIf_eq]
    exact ⟨rfl, rfl, rfl, rfl, rfl⟩
  | arithmetic x y operation =>
    cases h
    obtain ⟨registers, heq⟩ := m.executeArithmetic_eq x y operation
    rw [heq]
    exact ⟨rfl, rfl, rfl, rfl, rfl⟩
  | awaitKey x =>
    cases h
    exact m.effect_of_executeAwaitKey x
  | draw x y n =>
    rw [executeDraw_eq_ok h]
    exact ⟨rfl, rfl, rfl, rfl, rfl⟩
  | digits | store =>
    obtain ⟨_, -, rfl⟩ := map_eq_ok_iff.1 h
    exact ⟨rfl, rfl, rfl, rfl, rfl⟩
  | «recall» x =>
    obtain ⟨bytes, -, hafter⟩ := map_eq_ok_iff.1 h
    -- the registers are a function on all of them, which `rfl` would work out
    obtain ⟨registers, heq⟩ := m.setLowRegisters_eq bytes
    rw [← hafter, heq]
    exact ⟨rfl, rfl, rfl, rfl, rfl⟩
  | _ =>
    cases h
    exact ⟨rfl, rfl, rfl, rfl, rfl⟩

end Machine

end Chip8

-- SUMMARY: Where instructions leave the program counter.
import Chip8.Proofs.Machine.Step

/-! # The program counter

An instruction finds the program counter behind its own word. Most leave it there; the
others go to an address of theirs, to the newest one on the stack, past one more word,
or back to their own word to wait. -/

namespace Chip8.Machine

variable {m after : Machine} {byte : UInt8} {i : Instruction}

/-- Whether an instruction skips the next word. -/
def skips (m : Machine) : Instruction → Bool
  | .skipEqual x nn => m.register x == nn
  | .skipNotEqual x nn => m.register x != nn
  | .skipSame x y => m.register x == m.register y
  | .skipDifferent x y => m.register x != m.register y
  | .skipPressed x => m.keypad.isDown (m.register x)
  | .skipReleased x => !m.keypad.isDown (m.register x)
  | _ => false

/-- The program counter after an instruction that succeeds. -/
def pcAfter (m : Machine) : Instruction → UInt16
  | .jump nnn | .call nnn => nnn
  | .jumpPlus nnn => nnn + (m.register 0).toUInt16
  | .leave => m.stack.getLast?.getD m.pc
  | .awaitKey _ => if m.keypad.lowest?.isNone then m.pc - 2 else m.pc
  | i => if m.skips i then m.pc + 2 else m.pc

theorem pcAfter_jumpPlus (m : Machine) (nnn : UInt16) :
    m.pcAfter (.jumpPlus nnn) = nnn + (m.register 0).toUInt16 := rfl

theorem pcAfter_leave (m : Machine) : m.pcAfter .leave = m.stack.getLast?.getD m.pc := rfl

theorem pcAfter_awaitKey (m : Machine) (x : Register) :
    m.pcAfter (.awaitKey x) = if m.keypad.lowest?.isNone then m.pc - 2 else m.pc := rfl

theorem skipIf_pc (m : Machine) (condition : Bool) :
    (m.skipIf condition).pc = if condition then m.pc + 2 else m.pc := by
  rw [skipIf_eq]

theorem pc_of_effect (h : m.effect byte i = .ok after) : after.pc = m.pcAfter i := by
  cases i with
  | call nnn =>
    obtain ⟨-, rfl⟩ := executeCall_eq_ok h
    rfl
  | leave =>
    obtain ⟨caller, hcaller, rfl⟩ := executeLeave_eq_ok h
    rw [pcAfter_leave, hcaller]
    rfl
  | skipEqual | skipNotEqual | skipSame | skipDifferent | skipPressed | skipReleased =>
    cases h
    exact m.skipIf_pc _
  | arithmetic x y operation =>
    cases h
    obtain ⟨registers, heq⟩ := m.executeArithmetic_eq x y operation
    rw [heq]
    rfl
  | awaitKey x =>
    cases h
    cases hkey : m.keypad.lowest? with
    | some key =>
      rw [executeAwaitKey_of_some x hkey, pcAfter_awaitKey, hkey]
      rfl
    | none =>
      rw [executeAwaitKey_of_none x hkey, pcAfter_awaitKey, hkey]
      rfl
  | draw x y n =>
    rw [executeDraw_eq_ok h]
    rfl
  | digits | store =>
    obtain ⟨_, -, rfl⟩ := map_eq_ok_iff.1 h
    rfl
  | «recall» x =>
    obtain ⟨bytes, -, rfl⟩ := map_eq_ok_iff.1 h
    obtain ⟨registers, heq⟩ := m.setLowRegisters_eq bytes
    rw [heq]
    rfl
  | _ =>
    cases h
    rfl

end Chip8.Machine

-- SUMMARY: Which registers an instruction writes, and what stays in all others.
import Chip8.Proofs.Keypad
import Chip8.Proofs.Machine.Execute

/-! # Registers

An instruction with a result puts it into its VX. Loading fills the registers from V0
to VX. Beside that only VF is written, as a flag: by drawing and by the operations that
carry, borrow or shift. -/

namespace Chip8

/-- The operations that put a flag into VF. -/
def Arithmetic.flags : Arithmetic → Bool
  | copy | or | and | xor => false
  | add | subtract | subtractFrom | shiftRight | shiftLeft => true

/-- The instructions that put a flag into VF. -/
def Instruction.flags : Instruction → Bool
  | .draw _ _ _ => true
  | .arithmetic _ _ operation => operation.flags
  | _ => false

namespace Machine

variable {m after : Machine} {byte : UInt8} {i : Instruction} {x y k : Register}

/-! ## One register -/

theorem register_setRegister (m : Machine) (x : Register) (value : UInt8) :
    (m.setRegister x value).register x = value :=
  Vector.getElem_set_self x.isLt

theorem register_setRegister_of_ne (h : k ≠ x) (value : UInt8) :
    (m.setRegister x value).register k = m.register k :=
  Vector.getElem_set_ne x.isLt k.isLt fun hval => h (Fin.ext hval.symm)

theorem setFlag_register (m : Machine) (flag : Bool) :
    (m.setFlag flag).register 0xF = flag.toUInt8 :=
  m.register_setRegister 0xF flag.toUInt8

theorem setFlag_register_of_ne (m : Machine) (flag : Bool) (h : k ≠ 0xF) :
    (m.setFlag flag).register k = m.register k :=
  register_setRegister_of_ne h flag.toUInt8

/-- Bytes that are loaded fill the registers from V0 on. -/
theorem register_setLowRegisters (m : Machine) (bytes : List UInt8) (k : Register) :
    (m.setLowRegisters bytes).register k = (bytes[k.val]?).getD (m.register k) :=
  Vector.getElem_ofFn k.isLt

theorem register_advanceIndex (m : Machine) (x k : Register) :
    (m.advanceIndex x).register k = m.register k := rfl

/-- The registers from V0 on in their order. -/
theorem getElem?_lowRegisters (h : k ≤ x) : (m.lowRegisters x)[k.val]? = some (m.register k) := by
  rw [lowRegisters, List.getElem?_take_of_lt (Nat.lt_succ_of_le h), Vector.getElem?_toList]
  exact Vector.getElem?_eq_getElem k.isLt

/-! ## Arithmetic -/

theorem executeArithmetic_of_flag {operation : Arithmetic} {value : UInt8} {flag : Bool}
    (h : operation.apply (m.register x) (m.register y) = (value, some flag)) :
    m.executeArithmetic x y operation = (m.setRegister x value).setFlag flag := by
  simp only [executeArithmetic, h]

theorem executeArithmetic_of_no_flag {operation : Arithmetic} {value : UInt8}
    (h : operation.apply (m.register x) (m.register y) = (value, none)) :
    m.executeArithmetic x y operation = m.setRegister x value := by
  simp only [executeArithmetic, h]

/-- An operation comes with a flag or without one, whatever its operands are. -/
theorem apply_of_flags {operation : Arithmetic} (h : operation.flags = true) (a b : UInt8) :
    ∃ value flag, operation.apply a b = (value, some flag) := by
  cases operation with
  | copy | or | and | xor => cases h
  | add | subtract | subtractFrom | shiftRight | shiftLeft => exact ⟨_, _, rfl⟩

theorem apply_of_not_flags {operation : Arithmetic} (h : operation.flags = false) (a b : UInt8) :
    ∃ value, operation.apply a b = (value, none) := by
  cases operation with
  | copy | or | and | xor => exact ⟨_, rfl⟩
  | add | subtract | subtractFrom | shiftRight | shiftLeft => cases h

/-- Arithmetic writes VX, and beside it only VF, as a flag. -/
theorem register_executeArithmetic_of_ne {operation : Arithmetic} (hx : k ≠ x)
    (hflag : k = 0xF → operation.flags = false) :
    (m.executeArithmetic x y operation).register k = m.register k := by
  cases hflags : operation.flags with
  | true =>
    obtain ⟨value, flag, happly⟩ := apply_of_flags hflags (m.register x) (m.register y)
    have hk : k ≠ 0xF := by
      rintro rfl
      rw [hflag rfl] at hflags
      cases hflags
    rw [executeArithmetic_of_flag happly, setFlag_register_of_ne _ _ hk,
      register_setRegister_of_ne hx]
  | false =>
    obtain ⟨value, happly⟩ := apply_of_not_flags hflags (m.register x) (m.register y)
    rw [executeArithmetic_of_no_flag happly, register_setRegister_of_ne hx]

/-! ## Instructions -/

/-- An instruction of a machine writes the register `k`, though not as a flag. -/
inductive WritesRegister (m : Machine) (k : Register) : Instruction → Prop where
  | set {nn : UInt8} : WritesRegister m k (.set k nn)
  | increase {nn : UInt8} : WritesRegister m k (.increase k nn)
  | arithmetic {y : Register} {operation : Arithmetic} :
      WritesRegister m k (.arithmetic k y operation)
  | random {nn : UInt8} : WritesRegister m k (.random k nn)
  | readDelay : WritesRegister m k (.readDelay k)
  | awaitKey (hkey : ¬m.keypad.AllUp) : WritesRegister m k (.awaitKey k)
  | recall {x : Register} (hk : k ≤ x) : WritesRegister m k (.recall x)

theorem register_of_effect (h : m.effect byte i = .ok after) (hwrites : ¬m.WritesRegister k i)
    (hflag : k = 0xF → i.flags = false) : after.register k = m.register k := by
  cases i with
  | set x nn | increase x nn | random x nn | readDelay x =>
    cases h
    refine register_setRegister_of_ne ?_ _
    rintro rfl
    exact hwrites (by constructor)
  | arithmetic x y operation =>
    cases h
    refine register_executeArithmetic_of_ne ?_ hflag
    rintro rfl
    exact hwrites .arithmetic
  | draw x y n =>
    have hk : k ≠ 0xF := fun hk => Bool.noConfusion (hflag hk)
    rw [executeDraw_eq_ok h, setFlag_register_of_ne _ _ hk]
    rfl
  | awaitKey x =>
    cases h
    cases hkey : m.keypad.lowest? with
    | some key =>
      rw [executeAwaitKey_of_some x hkey]
      refine register_setRegister_of_ne ?_ _
      rintro rfl
      refine hwrites (.awaitKey fun hup => ?_)
      rw [Keypad.lowest?_eq_none_iff.2 hup] at hkey
      cases hkey
    | none =>
      rw [executeAwaitKey_of_none x hkey]
      rfl
  | «recall» x =>
    obtain ⟨bytes, hslice, rfl⟩ := map_eq_ok_iff.1 h
    have hbeyond : x.val < k.val := Nat.lt_of_not_le fun hk => hwrites (.recall hk)
    have hlength : bytes.length = x.val + 1 := Memory.length_of_slice hslice
    have hnone : bytes[k.val]? = none :=
      List.getElem?_eq_none (hlength ▸ Nat.succ_le_of_lt hbeyond)
    rw [register_advanceIndex, register_setLowRegisters, hnone, Option.getD_none]
  | skipEqual | skipNotEqual | skipSame | skipDifferent | skipPressed | skipReleased =>
    cases h
    rw [skipIf_eq]
    rfl
  | call nnn =>
    obtain ⟨-, rfl⟩ := executeCall_eq_ok h
    rfl
  | leave =>
    obtain ⟨_, -, rfl⟩ := executeLeave_eq_ok h
    rfl
  | digits | store =>
    obtain ⟨_, -, rfl⟩ := map_eq_ok_iff.1 h
    rfl
  | _ =>
    cases h
    rfl

end Machine

end Chip8

-- SUMMARY: An instruction changes only the parts of the machine that are its own.
import Chip8.Proofs.Calls
import Chip8.Proofs.Machine.Periphery
import Chip8.Proofs.Machine.Registers

/-! # What an instruction leaves alone

Every instruction has a few parts of the machine for its own, and all other parts are as
they were before it. An instruction that fails changes nothing, and neither does a word
that is no instruction. Where the program counter goes is told elsewhere. -/

namespace Chip8

/-- The instructions that write I. -/
def Instruction.writesIndex : Instruction → Bool
  | .setIndex _ | .addIndex _ | .glyph _ | .store _ | .recall _ => true
  | _ => false

namespace Machine

variable {m after : Machine} {byte : UInt8} {i : Instruction} {a : Nat}

/-- An instruction of a machine writes the byte at the address `a`. -/
inductive WritesByte (m : Machine) (a : Nat) : Instruction → Prop where
  | digits {x : Register} (hfrom : m.index.toNat ≤ a) (hto : a ≤ m.index.toNat + 2) :
      WritesByte m a (.digits x)
  | store {x : Register} (hfrom : m.index.toNat ≤ a) (hto : a ≤ m.index.toNat + x) :
      WritesByte m a (.store x)

/-- A machine differs from `m` only in parts that belong to the instruction `i`. -/
structure Confined (m : Machine) (i : Instruction) (after : Machine) : Prop where
  memory : ∀ a, after.memory.read a ≠ m.memory.read a → m.WritesByte a i
  display : after.display ≠ m.display → i = .clear ∨ ∃ x y n, i = .draw x y n
  stack : after.stack ≠ m.stack →
    (∃ nnn, i = .call nnn ∧ after.stack = m.stack ++ [m.pc]) ∨
      i = .leave ∧ m.stack = after.stack ++ [after.pc]
  delay : after.delay ≠ m.delay → ∃ x, i = .setDelay x
  sound : after.sound ≠ m.sound → ∃ x, i = .setSound x
  index : after.index ≠ m.index → i.writesIndex = true
  mode : after.mode ≠ m.mode → ∃ x, i = .awaitKey x ∧ m.keypad.AllUp
  keypad : after.keypad = m.keypad
  edge : after.edge = m.edge
  registers : ∀ k, k ≠ 0xF → after.register k ≠ m.register k → m.WritesRegister k i
  flag : after.register 0xF ≠ m.register 0xF → m.WritesRegister 0xF i ∨ i.flags = true
  unknown : ∀ word, i = .unknown word → after = m

theorem confined_refl (m : Machine) (i : Instruction) : m.Confined i m where
  memory _ h := absurd rfl h
  display h := absurd rfl h
  stack h := absurd rfl h
  delay h := absurd rfl h
  sound h := absurd rfl h
  index h := absurd rfl h
  mode h := absurd rfl h
  keypad := rfl
  edge := rfl
  registers _ _ h := absurd rfl h
  flag h := absurd rfl h
  unknown _ _ := rfl

/-! ## Instructions that succeed -/

/-- The bytes that an instruction of a machine puts at I. -/
def written? (m : Machine) : Instruction → Option (List UInt8)
  | .digits x => some (decimalDigits (m.register x))
  | .store x => some (m.lowRegisters x)
  | _ => none

theorem memory_of_written {bytes : List UInt8} (hwritten : m.written? i = some bytes)
    (h : m.effect byte i = .ok after) :
    m.memory.writeBytes m.index.toNat bytes = .ok after.memory := by
  cases i with
  | digits | store =>
    obtain ⟨memory, hwrite, rfl⟩ := map_eq_ok_iff.1 h
    cases hwritten
    exact hwrite
  | _ => cases hwritten

/-- Where no bytes are written the memory stays, and I moves by instructions of its own. -/
theorem unwritten_of_effect (h : m.effect byte i = .ok after) :
    (m.written? i = none → after.memory = m.memory) ∧
      (i.writesIndex = false → after.index = m.index) := by
  cases i with
  | digits x =>
    obtain ⟨_, -, rfl⟩ := map_eq_ok_iff.1 h
    exact ⟨nofun, fun _ => rfl⟩
  | store x => exact ⟨nofun, nofun⟩
  | setIndex | addIndex | glyph =>
    cases h
    exact ⟨fun _ => rfl, nofun⟩
  | «recall» x =>
    obtain ⟨bytes, -, rfl⟩ := map_eq_ok_iff.1 h
    obtain ⟨registers, heq⟩ := m.setLowRegisters_eq bytes
    rw [heq]
    exact ⟨fun _ => rfl, nofun⟩
  | draw x y n =>
    rw [executeDraw_eq_ok h]
    exact ⟨fun _ => rfl, fun _ => rfl⟩
  | arithmetic x y operation =>
    cases h
    obtain ⟨registers, heq⟩ := m.executeArithmetic_eq x y operation
    rw [heq]
    exact ⟨fun _ => rfl, fun _ => rfl⟩
  | awaitKey x =>
    cases h
    unfold executeAwaitKey
    split <;> exact ⟨fun _ => rfl, fun _ => rfl⟩
  | skipEqual | skipNotEqual | skipSame | skipDifferent | skipPressed | skipReleased =>
    cases h
    rw [skipIf_eq]
    exact ⟨fun _ => rfl, fun _ => rfl⟩
  | call nnn =>
    obtain ⟨-, rfl⟩ := executeCall_eq_ok h
    exact ⟨fun _ => rfl, fun _ => rfl⟩
  | leave =>
    obtain ⟨_, -, rfl⟩ := executeLeave_eq_ok h
    exact ⟨fun _ => rfl, fun _ => rfl⟩
  | _ =>
    cases h
    exact ⟨fun _ => rfl, fun _ => rfl⟩

/-- The bytes that are written lie from I on. -/
theorem writesByte_of_written {bytes : List UInt8} (hwritten : m.written? i = some bytes)
    (hfrom : m.index.toNat ≤ a) (hto : a < m.index.toNat + bytes.length) : m.WritesByte a i := by
  cases i with
  | digits x =>
    cases hwritten
    exact .digits hfrom (Nat.le_of_lt_succ hto)
  | store x =>
    cases hwritten
    rw [length_lowRegisters] at hto
    exact .store hfrom (Nat.le_of_lt_succ hto)
  | _ => cases hwritten

theorem writesByte_of_effect (h : m.effect byte i = .ok after)
    (hne : after.memory.read a ≠ m.memory.read a) : m.WritesByte a i := by
  cases hwritten : m.written? i with
  | none =>
    rw [(unwritten_of_effect h).1 hwritten] at hne
    exact absurd rfl hne
  | some bytes =>
    have hwrite := memory_of_written hwritten h
    have hfrom : m.index.toNat ≤ a := by
      apply Nat.le_of_not_lt
      intro hbelow
      exact hne (Memory.read_of_writeBytes hwrite (.inl hbelow))
    have hto : a < m.index.toNat + bytes.length := by
      apply Nat.lt_of_not_le
      intro habove
      exact hne (Memory.read_of_writeBytes hwrite (.inr habove))
    exact writesByte_of_written hwritten hfrom hto

theorem confined_of_effect (h : m.effect byte i = .ok after) : m.Confined i after where
  memory a hne := writesByte_of_effect h hne
  display hne := by
    rw [(effect_of_ok h).display] at hne
    cases i with
    | clear => exact .inl rfl
    | draw x y n => exact .inr ⟨x, y, n, rfl⟩
    | _ => exact absurd rfl hne
  stack hne := by
    have hstack := (effect_of_ok h).stack
    cases i with
    | call nnn => exact .inl ⟨nnn, rfl, hstack⟩
    | leave => exact .inr ⟨rfl, effect_leave_eq_ok h⟩
    | _ => exact absurd hstack hne
  delay hne := by
    have hdelay := congrArg Periphery.delay (effect_periphery h)
    cases i with
    | setDelay x => exact ⟨x, rfl⟩
    | _ => exact absurd hdelay hne
  sound hne := by
    have hsound := congrArg Periphery.sound (effect_periphery h)
    cases i with
    | setSound x => exact ⟨x, rfl⟩
    | _ => exact absurd hsound hne
  index hne := by
    cases hwrites : i.writesIndex with
    | true => rfl
    | false => exact absurd ((unwritten_of_effect h).2 hwrites) hne
  mode hne := by
    have hmode := (effect_of_ok h).mode
    cases i with
    | awaitKey x =>
      refine ⟨x, rfl, ?_⟩
      cases hkey : m.keypad.lowest? with
      | none => exact Keypad.lowest?_eq_none_iff.1 hkey
      | some key =>
        rw [modeAfter, hkey] at hmode
        exact absurd hmode hne
    | _ => exact absurd hmode hne
  keypad := (effect_of_ok h).keypad
  edge := (effect_of_ok h).edge
  registers k hk hne := by
    apply Classical.byContradiction
    intro hwrites
    exact hne (register_of_effect h hwrites fun hflag => absurd hflag hk)
  flag hne := by
    cases hflags : i.flags with
    | true => exact .inr rfl
    | false =>
      left
      apply Classical.byContradiction
      intro hwrites
      exact hne (register_of_effect h hwrites fun _ => hflags)
  unknown word hi := by
    subst hi
    cases h
    rfl

/-- Whether an instruction succeeds or fails, it changes only what belongs to it. -/
theorem execute_confined (m : Machine) (byte : UInt8) (i : Instruction) :
    m.Confined i (m.execute byte i).machine := by
  cases heffect : m.effect byte i with
  | error fault =>
    rw [execute_of_error heffect]
    exact m.confined_refl i
  | ok after =>
    rw [execute_of_ok heffect]
    exact confined_of_effect heffect

end Machine

end Chip8

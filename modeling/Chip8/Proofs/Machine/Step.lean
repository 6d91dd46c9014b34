-- SUMMARY: What a step of a machine comes to, in each of its cases.
import Chip8.Machine.Step
import Chip8.Proofs.Machine.Execute

/-! # Steps by cases

A step of a waiting machine looks for a key. A step of a running machine takes
the word at the program counter, which it can when both bytes are inside of
memory, and executes it behind that word. -/

namespace Chip8.Machine

variable {m after : Machine} {byte : UInt8} {i : Instruction} {word : UInt16} {fault : Fault}

/-! ## Execution -/

theorem execute_of_ok (h : m.effect byte i = .ok after) :
    m.execute byte i = ⟨.ok (m.progressOf i), after, m.noticesOf i⟩ := by
  simp [execute, h]

theorem execute_of_error (h : m.effect byte i = .error fault) :
    m.execute byte i = ⟨.error fault, m, []⟩ := by
  simp [execute, h]

theorem execute_keypad (m : Machine) (byte : UInt8) (i : Instruction) :
    (m.execute byte i).machine.keypad = m.keypad := by
  unfold execute
  split
  · next heffect => exact (effect_of_ok heffect).keypad
  · rfl

theorem execute_edge (m : Machine) (byte : UInt8) (i : Instruction) :
    (m.execute byte i).machine.edge = m.edge := by
  unfold execute
  split
  · next heffect => exact (effect_of_ok heffect).edge
  · rfl

/-! ## Words -/

theorem toNat_wordOf (high low : UInt8) :
    (wordOf high low).toNat = high.toNat * 256 + low.toNat := by
  have hlow := low.toNat_lt
  have hhigh := high.toNat_lt
  have hshift : high.toNat <<< 8 % 65536 = high.toNat <<< 8 := by
    rw [Nat.shiftLeft_eq, Nat.mod_eq_of_lt (by omega)]
  simp only [wordOf, UInt16.toNat_or, UInt16.toNat_shiftLeft, UInt8.toNat_toUInt16,
    UInt16.reduceToNat, Nat.reduceMod, Nat.reducePow, hshift]
  rw [← Nat.shiftLeft_add_eq_or_of_lt hlow, Nat.shiftLeft_eq]

/-- The two bytes at the program counter, the high one first. -/
def wordAt (m : Machine) (inside : m.pc.toNat + 1 < memorySize) : UInt16 :=
  UInt16.ofNat (m.memory.cells[m.pc.toNat].toNat * 256 + m.memory.cells[m.pc.toNat + 1].toNat)

theorem nextWord_of_lt (h : m.pc.toNat + 1 < memorySize) : m.nextWord = .ok (m.wordAt h) := by
  rw [wordAt, ← toNat_wordOf, UInt16.ofNat_toNat]
  simp [nextWord, Memory.read_of_lt h, Memory.read_of_lt (Nat.lt_of_succ_lt h)]

/-- Without two bytes at the program counter, the first of them that is missing
    is at fault. -/
theorem nextWord_of_le (h : memorySize ≤ m.pc.toNat + 1) :
    m.nextWord = .error (.addressOutOfRange (max m.pc.toNat memorySize)) := by
  rcases Nat.lt_or_ge m.pc.toNat memorySize with hpc | hpc
  · have hmax : max m.pc.toNat memorySize = m.pc.toNat + 1 := by omega
    simp [nextWord, Memory.read_of_lt hpc, Memory.read_of_le h, hmax]
  · simp [nextWord, Memory.read_of_le hpc, Nat.max_eq_left hpc]

theorem inside_of_nextWord (h : m.nextWord = .ok word) : m.pc.toNat + 1 < memorySize := by
  refine Nat.lt_of_not_le fun hpc => ?_
  rw [nextWord_of_le hpc] at h
  cases h

theorem bytes_of_nextWord (h : m.nextWord = .ok word) :
    ∃ high low, m.memory.read m.pc.toNat = .ok high ∧
      m.memory.read (m.pc.toNat + 1) = .ok low ∧ word.toNat = high.toNat * 256 + low.toNat := by
  unfold nextWord at h
  split at h
  · cases h
  next high hhigh =>
    split at h
    · cases h
    next low hlow =>
      cases h
      exact ⟨high, low, hhigh, hlow, toNat_wordOf high low⟩

/-! ## Steps -/

theorem step_of_unfetched (hmode : m.mode = .running) (hword : m.nextWord = .error fault)
    (byte : UInt8) : m.step byte = ⟨.error fault, m, []⟩ := by
  simp [step, hmode, hword]

theorem step_of_fetched (hmode : m.mode = .running) (hword : m.nextWord = .ok word)
    (byte : UInt8) : m.step byte = m.pastWord.execute byte (Instruction.decode word) := by
  simp [step, hmode, hword]

theorem step_of_awaiting {x : Register} (hmode : m.mode = .awaiting x) (byte : UInt8) :
    m.step byte = ⟨.ok (m.awaitKey x).1, (m.awaitKey x).2, []⟩ := by
  simp [step, hmode]

/-- Steps do not touch keys. -/
theorem step_keypad (m : Machine) (byte : UInt8) : (m.step byte).machine.keypad = m.keypad := by
  unfold step
  split
  · unfold awaitKey
    split <;> rfl
  · split
    · rfl
    · exact execute_keypad _ byte _

/-- Steps keep the treatment of the edge. -/
theorem step_edge (m : Machine) (byte : UInt8) : (m.step byte).machine.edge = m.edge := by
  unfold step
  split
  · unfold awaitKey
    split <;> rfl
  · split
    · rfl
    · exact execute_edge _ byte _

end Chip8.Machine

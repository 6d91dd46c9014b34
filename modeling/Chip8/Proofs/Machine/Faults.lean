-- SUMMARY: The faults of a step: exactly when there is one, and what it leaves.
import Chip8.Proofs.Machine.Step

/-! # Steps that fail

A step fails when there is no word to take, or when the word that it took asks
for what cannot be done: a return without a call, a call too many, or bytes that
do not lie inside of memory. A word that is taken is gone, though nothing comes
of it; the rest of the machine is as it was. -/

namespace Chip8

/-- How many bytes from I on an instruction reads or writes, if it does. -/
def Instruction.span? : Instruction → Option Nat
  | .draw _ _ n => some n
  | .digits _ => some 3
  | .store x => some (x + 1)
  | .recall x => some (x + 1)
  | _ => none

namespace Machine

variable {m : Machine} {byte : UInt8} {i : Instruction} {fault : Fault}

/-! ## Instructions that fail -/

/-- The faults of an instruction on a machine. -/
inductive Refuses (m : Machine) : Instruction → Fault → Prop where
  | underflow (hstack : m.stack = []) : Refuses m .leave .stackUnderflow
  | overflow {nnn : UInt16} (hstack : callLimit ≤ m.stack.length) :
      Refuses m (.call nnn) .stackOverflow
  | outside {i : Instruction} {n : Nat} (hspan : i.span? = some n)
      (hindex : memorySize < m.index.toNat + n) :
      Refuses m i (Memory.outsideFault m.index.toNat)

/-- An instruction that reads or writes bytes at I fails when they are not all inside. -/
theorem refuses_iff_of_span {n : Nat} (hspan : i.span? = some n) :
    m.Refuses i fault ↔
      memorySize < m.index.toNat + n ∧ fault = Memory.outsideFault m.index.toNat := by
  constructor
  · rintro (_ | _ | ⟨hspan', hindex⟩)
    · cases hspan
    · cases hspan
    · rw [hspan, Option.some.injEq] at hspan'
      subst hspan'
      exact ⟨hindex, rfl⟩
  · rintro ⟨hindex, rfl⟩
    exact .outside hspan hindex

theorem length_lowRegisters (m : Machine) (x : Register) : (m.lowRegisters x).length = x + 1 := by
  rw [lowRegisters, List.length_take, Vector.length_toList, Nat.min_eq_left (Nat.succ_le_of_lt x.isLt)]

theorem effect_eq_error_iff : m.effect byte i = .error fault ↔ m.Refuses i fault := by
  cases i with
  | call nnn =>
    simp only [effect, executeCall]
    constructor
    · intro h
      split at h
      · next hstack =>
        cases h
        exact .overflow hstack
      · cases h
    · rintro (_ | hstack | ⟨⟨⟩, -⟩)
      rw [if_pos hstack]
  | leave =>
    simp only [effect, executeLeave]
    constructor
    · intro h
      split at h
      · next hstack =>
        cases h
        exact .underflow (List.getLast?_eq_none_iff.1 hstack)
      · cases h
    · rintro (hstack | _ | ⟨⟨⟩, -⟩)
      rw [hstack, List.getLast?_nil]
  | draw x y n =>
    rw [refuses_iff_of_span rfl]
    exact map_eq_error_iff.trans Memory.slice_eq_error_iff
  | digits x =>
    rw [refuses_iff_of_span rfl]
    exact map_eq_error_iff.trans Memory.writeBytes_eq_error_iff
  | store x =>
    rw [refuses_iff_of_span rfl, ← m.length_lowRegisters x]
    exact map_eq_error_iff.trans Memory.writeBytes_eq_error_iff
  | «recall» x =>
    rw [refuses_iff_of_span rfl]
    exact map_eq_error_iff.trans Memory.slice_eq_error_iff
  | _ =>
    constructor
    · intro h
      cases h
    · rintro (_ | _ | ⟨⟨⟩, -⟩)

/-! ## Steps that fail -/

/-- A machine that runs is about to execute an instruction: both bytes of its
    word are inside of memory, the high one first. -/
structure Fetches (m : Machine) (i : Instruction) : Prop where
  running : m.mode = .running
  inside : m.pc.toNat + 1 < memorySize
  decoded : Instruction.decode (m.wordAt inside) = i

/-- The faults of a step, each with the machine that it leaves. -/
inductive StepFails (m : Machine) : Fault → Machine → Prop where
  | unfetched (hmode : m.mode = .running) (hpc : 0xFFF ≤ m.pc.toNat) :
      StepFails m (.addressOutOfRange (max m.pc.toNat 0x1000)) m
  | underflow (hi : m.Fetches .leave) (hstack : m.stack = []) :
      StepFails m .stackUnderflow { m with pc := m.pc + 2 }
  | overflow {nnn : UInt16} (hi : m.Fetches (.call nnn)) (hstack : m.stack.length = 16) :
      StepFails m .stackOverflow { m with pc := m.pc + 2 }
  | outside {i : Instruction} {n : Nat} (hi : m.Fetches i) (hspan : i.span? = some n)
      (hindex : 4096 < m.index.toNat + n) :
      StepFails m (.addressOutOfRange (max m.index.toNat 4096)) { m with pc := m.pc + 2 }

theorem fetches_iff :
    m.Fetches i ↔
      m.mode = .running ∧ ∃ word, m.nextWord = .ok word ∧ Instruction.decode word = i := by
  constructor
  · rintro ⟨hmode, hpc, hi⟩
    exact ⟨hmode, _, nextWord_of_lt hpc, hi⟩
  · rintro ⟨hmode, word, hword, hi⟩
    have hpc := inside_of_nextWord hword
    rw [nextWord_of_lt hpc, Except.ok.injEq] at hword
    exact ⟨hmode, hpc, by rw [hword, hi]⟩

/-- A step that succeeds comes to what its instruction does behind the word. -/
theorem Fetches.effect_eq_ok {progress : Progress} (hi : m.Fetches i)
    (hok : (m.step byte).result = .ok progress) :
    m.pastWord.effect byte i = .ok (m.step byte).machine := by
  obtain ⟨hmode, word, hword, rfl⟩ := fetches_iff.1 hi
  rw [step_of_fetched hmode hword] at hok ⊢
  cases heffect : m.pastWord.effect byte (Instruction.decode word) with
  | error fault =>
    rw [execute_of_error heffect] at hok
    cases hok
  | ok after => rw [execute_of_ok heffect]

/-- A step that takes a word fails exactly as its instruction does, and leaves
    the machine behind the word. -/
theorem step_eq_error_of_fetched {word : UInt16} {after : Machine} (hmode : m.mode = .running)
    (hword : m.nextWord = .ok word) :
    (m.step byte).result = .error fault ∧ (m.step byte).machine = after ↔
      m.pastWord.Refuses (Instruction.decode word) fault ∧ after = m.pastWord := by
  rw [step_of_fetched hmode hword, ← effect_eq_error_iff]
  cases heffect : m.pastWord.effect byte (Instruction.decode word) with
  | ok _ => simp [execute_of_ok heffect]
  | error _ => simp [execute_of_error heffect, eq_comm]

theorem stepFails_iff_of_fetched {word : UInt16} {after : Machine} (hmode : m.mode = .running)
    (hword : m.nextWord = .ok word) (hcalls : m.stack.length ≤ 16) :
    m.StepFails fault after ↔
      m.pastWord.Refuses (Instruction.decode word) fault ∧ after = m.pastWord := by
  have hfetches : ∀ {i}, m.Fetches i ↔ Instruction.decode word = i := by
    intro i
    rw [fetches_iff]
    constructor
    · rintro ⟨-, word', hword', hi⟩
      rw [hword, Except.ok.injEq] at hword'
      rwa [hword']
    · exact fun hi => ⟨hmode, word, hword, hi⟩
  constructor
  · rintro (⟨-, hpc⟩ | ⟨hi, hstack⟩ | ⟨hi, hstack⟩ | ⟨hi, hspan, hindex⟩)
    · rw [nextWord_of_le (Nat.succ_le_succ hpc)] at hword
      cases hword
    · rw [hfetches.1 hi]
      exact ⟨.underflow hstack, rfl⟩
    · rw [hfetches.1 hi]
      exact ⟨.overflow (Nat.le_of_eq hstack.symm), rfl⟩
    · rw [hfetches.1 hi]
      exact ⟨.outside hspan hindex, rfl⟩
  · rintro ⟨hrefuses, rfl⟩
    have hi : m.Fetches (Instruction.decode word) := hfetches.2 rfl
    -- which instruction it is does not matter beyond how it is refused
    generalize Instruction.decode word = i at hrefuses hi
    cases hrefuses with
    | underflow hstack => exact .underflow hi hstack
    | overflow hstack => exact .overflow hi (Nat.le_antisymm hcalls hstack)
    | outside hspan hindex => exact .outside hi hspan hindex

/-- Without a word to take, a step fails and leaves the machine as it is. -/
theorem stepFails_iff_of_unfetched {after : Machine} (hmode : m.mode = .running)
    (hpc : memorySize ≤ m.pc.toNat + 1) :
    m.StepFails fault after ↔
      fault = .addressOutOfRange (max m.pc.toNat memorySize) ∧ after = m := by
  have hfetches : ∀ {i}, ¬m.Fetches i := fun hi => absurd hi.inside (Nat.not_lt.2 hpc)
  constructor
  · rintro (⟨-, -⟩ | ⟨hi, -⟩ | ⟨hi, -⟩ | ⟨hi, -, -⟩)
    · exact ⟨rfl, rfl⟩
    all_goals exact absurd hi hfetches
  · rintro ⟨rfl, rfl⟩
    exact .unfetched hmode (Nat.le_of_succ_le_succ hpc)

theorem StepFails.running {after : Machine} (h : m.StepFails fault after) :
    m.mode = .running := by
  cases h with
  | unfetched hmode => exact hmode
  | underflow hi => exact hi.running
  | overflow hi => exact hi.running
  | outside hi => exact hi.running

/-- A step fails exactly in the ways that `StepFails` lists, and the machine that
    it leaves then is the one listed. A machine that waits never fails. -/
theorem step_eq_error_iff (m : Machine) (byte : UInt8) (hcalls : m.stack.length ≤ 16) :
    (∀ fault after,
      (m.step byte).result = .error fault ∧ (m.step byte).machine = after ↔
        m.StepFails fault after) ∧
      ∀ x, m.mode = .awaiting x → ∃ progress, (m.step byte).result = .ok progress := by
  refine ⟨fun fault after => ?_, fun x hmode => ?_⟩
  · cases hmode : m.mode with
    | awaiting x =>
      rw [step_of_awaiting hmode]
      constructor
      · rintro ⟨⟨⟩, -⟩
      · intro h
        rw [h.running] at hmode
        cases hmode
    | running =>
      rcases Nat.lt_or_ge (m.pc.toNat + 1) memorySize with hpc | hpc
      · have hword := nextWord_of_lt hpc
        rw [step_eq_error_of_fetched hmode hword, stepFails_iff_of_fetched hmode hword hcalls]
      · rw [step_of_unfetched hmode (nextWord_of_le hpc), stepFails_iff_of_unfetched hmode hpc,
          Except.error.injEq, eq_comm, @eq_comm _ m]
  · rw [step_of_awaiting hmode]
    exact ⟨_, rfl⟩

/-- A machine in the deepest of its calls, with a call in front of it. -/
def deepest : Machine :=
  { start .spill with
    memory := ⟨Vector.replicate memorySize 0x22⟩
    stack := List.replicate 16 0x222 }

theorem deepest_fetches : deepest.Fetches (.call 0x222) where
  running := rfl
  inside := by decide
  decoded := by
    simp only [wordAt, deepest, Vector.getElem_replicate]
    decide

/-- One more call is refused, and the machine moves past it all the same. -/
theorem step_deepest :
    deepest.stack.length ≤ 16 ∧ (deepest.step 0).result = .error .stackOverflow ∧
      (deepest.step 0).machine = { deepest with pc := 0x202 } := by
  have hcalls : deepest.stack.length ≤ 16 := Nat.le_of_eq rfl
  refine ⟨hcalls, ?_⟩
  exact ((step_eq_error_iff deepest 0 hcalls).1 _ _).2 (.overflow deepest_fetches rfl)

end Machine

end Chip8

-- SUMMARY: Keys, timers and the edge: which instructions write them, and which can tell them apart.
import Chip8.Proofs.Machine.Faults
import Chip8.Proofs.Machine.Sprite

/-! # Around the program

Beside what its program works on, a machine has keys, timers and a treatment of the
edge. Few instructions write these parts, and few read them. All other instructions
do the same whatever these parts are. -/

namespace Chip8

/-- The parts of a machine around its program. -/
structure Periphery where
  edge : SpriteEdge
  keypad : Keypad
  delay : UInt8
  sound : UInt8

/-- The parts around the program of a machine. -/
def Machine.periphery (m : Machine) : Periphery := ⟨m.edge, m.keypad, m.delay, m.sound⟩

/-- The machine with other parts around its program. -/
def Machine.withPeriphery (m : Machine) (p : Periphery) : Machine :=
  { m with edge := p.edge, keypad := p.keypad, delay := p.delay, sound := p.sound }

/-- What came of an operation, with other parts around the machine. -/
def Outcome.withPeriphery {α : Type} (o : Outcome α) (p : Periphery) : Outcome α :=
  { o with machine := o.machine.withPeriphery p }

/-- Machines that differ in their keys and timers alone. -/
structure Machine.SameInside (m n : Machine) : Prop where
  memory : n.memory = m.memory
  display : n.display = m.display
  pc : n.pc = m.pc
  index : n.index = m.index
  registers : n.registers = m.registers
  stack : n.stack = m.stack
  mode : n.mode = m.mode
  edge : n.edge = m.edge

namespace Machine

variable {m n after : Machine} {p : Periphery} {byte : UInt8} {i : Instruction}

/-- What an instruction of a machine makes of parts around it. -/
def peripheryAfter (m : Machine) (p : Periphery) : Instruction → Periphery
  | .setDelay x => { p with delay := m.register x }
  | .setSound x => { p with sound := m.register x }
  | _ => p

/-- A sprite of `n` rows at I has a set bit beyond the right edge. -/
def Overhangs (m : Machine) (x : Register) (n : Nibble) : Prop :=
  m.index.toNat + n ≤ memorySize ∧
    ∃ row column, row < n.val ∧ column < 8 ∧ m.SpriteBit row column ∧
      displayWidth ≤ (m.register x).toNat + column

/-- An instruction of a machine cannot tell other parts around it from its own. -/
def Overlooks (m : Machine) (p : Periphery) : Instruction → Prop
  | .draw x _ n => p.edge = m.edge ∨ ¬m.Overhangs x n
  | .skipPressed _ | .skipReleased _ | .awaitKey _ => p.keypad = m.keypad
  | .readDelay _ => p.delay = m.delay
  | _ => True

theorem SameInside.refl (m : Machine) : m.SameInside m :=
  ⟨rfl, rfl, rfl, rfl, rfl, rfl, rfl, rfl⟩

theorem SameInside.symm (h : m.SameInside n) : n.SameInside m :=
  ⟨h.memory.symm, h.display.symm, h.pc.symm, h.index.symm, h.registers.symm, h.stack.symm,
    h.mode.symm, h.edge.symm⟩

theorem SameInside.trans {k : Machine} (h : m.SameInside n) (h' : n.SameInside k) :
    m.SameInside k :=
  ⟨h'.memory.trans h.memory, h'.display.trans h.display, h'.pc.trans h.pc,
    h'.index.trans h.index, h'.registers.trans h.registers, h'.stack.trans h.stack,
    h'.mode.trans h.mode, h'.edge.trans h.edge⟩

theorem SameInside.eq (h : m.SameInside n) : n = m.withPeriphery n.periphery := by
  obtain ⟨hmemory, hdisplay, hpc, hindex, hregisters, hstack, hmode, -⟩ := h
  rw [withPeriphery, ← hmemory, ← hdisplay, ← hpc, ← hindex, ← hregisters, ← hstack, ← hmode]
  rfl

theorem sameInside_withPeriphery (m : Machine) (h : p.edge = m.edge) :
    m.SameInside (m.withPeriphery p) :=
  ⟨rfl, rfl, rfl, rfl, rfl, rfl, rfl, h⟩

/-! ## Instructions that write -/

/-- An instruction that fails writes nothing around the program. -/
theorem peripheryAfter_of_error {fault : Fault} (h : m.effect byte i = .error fault) :
    m.peripheryAfter p i = p := by
  cases i with
  | setDelay | setSound => cases h
  | _ => rfl

theorem effect_periphery (h : m.effect byte i = .ok after) :
    after.periphery = m.peripheryAfter m.periphery i := by
  cases i with
  | call nnn =>
    obtain ⟨-, rfl⟩ := executeCall_eq_ok h
    rfl
  | leave =>
    obtain ⟨_, -, rfl⟩ := executeLeave_eq_ok h
    rfl
  | skipEqual | skipNotEqual | skipSame | skipDifferent | skipPressed | skipReleased =>
    cases h
    rw [skipIf_eq]
    rfl
  | arithmetic x y operation =>
    cases h
    obtain ⟨registers, heq⟩ := m.executeArithmetic_eq x y operation
    rw [heq]
    rfl
  | awaitKey x =>
    cases h
    unfold executeAwaitKey
    split <;> rfl
  | draw x y n =>
    rw [executeDraw_eq_ok h]
    rfl
  | digits | store =>
    obtain ⟨_, -, rfl⟩ := map_eq_ok_iff.1 h
    rfl
  | «recall» x =>
    obtain ⟨bytes, -, rfl⟩ := map_eq_ok_iff.1 h
    obtain ⟨registers, heq⟩ := m.setLowRegisters_eq bytes
    rw [heq]
    rfl
  | _ =>
    cases h
    rfl

theorem execute_periphery (m : Machine) (byte : UInt8) (i : Instruction) :
    (m.execute byte i).machine.periphery = m.peripheryAfter m.periphery i := by
  cases heffect : m.effect byte i with
  | ok after =>
    rw [execute_of_ok heffect]
    exact effect_periphery heffect
  | error fault =>
    rw [execute_of_error heffect]
    exact (peripheryAfter_of_error heffect).symm

/-! ## Instructions that overlook -/

/-- A sprite that does not reach beyond the right edge covers the same pixels
    whatever becomes of those beyond it. -/
theorem executeDraw_withPeriphery {x y : Register} {k : Nibble}
    (h : p.edge = m.edge ∨ ¬m.Overhangs x k) :
    (m.withPeriphery p).executeDraw x y k = (m.executeDraw x y k).map (·.withPeriphery p) := by
  have hcovered : ∀ sprite, m.memory.slice m.index.toNat k = .ok sprite →
      covered p.edge (m.register x).toNat (m.register y).toNat sprite =
        covered m.edge (m.register x).toNat (m.register y).toNat sprite := by
    intro sprite hsprite
    obtain ⟨hinside, rfl⟩ := Memory.slice_eq_ok_iff.1 hsprite
    rcases h with hedge | hwithin
    · rw [hedge]
    · refine covered_eq_of_within m.edge ?_
      intro row column bits hrow hcolumn hset
      obtain ⟨hlt, hread⟩ := (spriteRow_iff hinside).1 hrow
      refine Nat.lt_of_not_le fun hbeyond => hwithin ⟨hinside, row, column, hlt, hcolumn, ?_, hbeyond⟩
      exact ⟨bits, hread, hset⟩
  have hmemory : (m.withPeriphery p).memory = m.memory := rfl
  have hindex : (m.withPeriphery p).index = m.index := rfl
  simp only [executeDraw_eq, hmemory, hindex]
  cases hsprite : m.memory.slice m.index.toNat k with
  | error fault => rfl
  | ok sprite =>
    simp only [Except.map]
    rw [← hcovered sprite hsprite]
    rfl

theorem skipIf_withPeriphery (m : Machine) (p : Periphery) (condition : Bool) :
    (m.withPeriphery p).skipIf condition = (m.skipIf condition).withPeriphery p := by
  cases condition <;> rfl

theorem effect_withPeriphery (h : m.Overlooks p i) :
    (m.withPeriphery p).effect byte i =
      (m.effect byte i).map (·.withPeriphery (m.peripheryAfter p i)) := by
  cases i with
  | call nnn =>
    simp only [effect, executeCall]
    have hstack : (m.withPeriphery p).stack = m.stack := rfl
    rw [hstack]
    split <;> rfl
  | leave =>
    have hstack : (m.withPeriphery p).stack = m.stack := rfl
    simp only [effect, executeLeave, hstack]
    cases m.stack.getLast? <;> rfl
  | skipEqual | skipNotEqual | skipSame | skipDifferent =>
    exact congrArg Except.ok (skipIf_withPeriphery m p _)
  | skipPressed x | skipReleased x =>
    have hkeypad : (m.withPeriphery p).keypad = m.keypad := h
    simp only [effect, hkeypad]
    exact congrArg Except.ok (skipIf_withPeriphery m p _)
  | arithmetic x y operation => cases operation <;> rfl
  | awaitKey x =>
    have hkeypad : (m.withPeriphery p).keypad = m.keypad := h
    simp only [effect]
    cases hkey : m.keypad.lowest? with
    | some key =>
      rw [executeAwaitKey_of_some x (hkeypad ▸ hkey), executeAwaitKey_of_some x hkey]
      rfl
    | none =>
      rw [executeAwaitKey_of_none x (hkeypad ▸ hkey), executeAwaitKey_of_none x hkey]
      rfl
  | readDelay x =>
    have hdelay : (m.withPeriphery p).delay = m.delay := h
    simp only [effect, hdelay]
    rfl
  | draw x y n => exact executeDraw_withPeriphery h
  | digits x =>
    rw [effect, effect, executeDigits, executeDigits, map_map]
    rfl
  | store x =>
    rw [effect, effect, executeStore, executeStore, map_map]
    rfl
  | «recall» x =>
    rw [effect, effect, executeRecall, executeRecall, map_map]
    rfl
  | _ => rfl

theorem progressOf_withPeriphery (h : m.Overlooks p i) :
    (m.withPeriphery p).progressOf i = m.progressOf i := by
  cases i with
  | awaitKey x =>
    have hkeypad : (m.withPeriphery p).keypad = m.keypad := h
    cases hkey : m.keypad.lowest? with
    | some key =>
      rw [progressOf, progressOf, executeAwaitKey_of_some x (hkeypad ▸ hkey),
        executeAwaitKey_of_some x hkey]
    | none =>
      rw [progressOf, progressOf, executeAwaitKey_of_none x (hkeypad ▸ hkey),
        executeAwaitKey_of_none x hkey]
  | _ => rfl

theorem noticesOf_withPeriphery (m : Machine) (p : Periphery) (i : Instruction) :
    (m.withPeriphery p).noticesOf i = m.noticesOf i := by
  cases i <;> rfl

theorem execute_withPeriphery (h : m.Overlooks p i) :
    (m.withPeriphery p).execute byte i =
      (m.execute byte i).withPeriphery (m.peripheryAfter p i) := by
  have hother : (m.withPeriphery p).effect byte i =
      (m.effect byte i).map (·.withPeriphery (m.peripheryAfter p i)) := effect_withPeriphery h
  cases heffect : m.effect byte i with
  | ok after =>
    rw [heffect] at hother
    rw [execute_of_ok hother, execute_of_ok heffect, progressOf_withPeriphery h,
      noticesOf_withPeriphery]
    rfl
  | error fault =>
    rw [heffect] at hother
    rw [execute_of_error hother, execute_of_error heffect, peripheryAfter_of_error heffect]
    rfl

/-! ## Steps -/

/-- The instruction that a step executes, if it executes one. -/
def executed? (m : Machine) : Option Instruction :=
  match m.mode, m.nextWord with
  | .running, .ok word => some (Instruction.decode word)
  | _, _ => none

theorem executed?_eq_some_iff : m.executed? = some i ↔ m.Fetches i := by
  rw [fetches_iff, executed?]
  cases m.mode with
  | awaiting x => simp
  | running =>
    cases m.nextWord with
    | error fault => simp
    | ok word => simp

/-- A machine is about to execute one instruction only. -/
theorem Fetches.unique {j : Instruction} (hi : m.Fetches i) (hj : m.Fetches j) : i = j := by
  have hsame := (executed?_eq_some_iff.2 hi).symm.trans (executed?_eq_some_iff.2 hj)
  exact Option.some.inj hsame

/-- What a step of a machine makes of parts around it. -/
def peripheryAfterStep (m : Machine) (p : Periphery) : Periphery :=
  match m.executed? with
  | some i => m.peripheryAfter p i
  | none => p

theorem executed?_of_awaiting {x : Register} (h : m.mode = .awaiting x) : m.executed? = none := by
  simp [executed?, h]

theorem executed?_of_unfetched {fault : Fault} (h : m.nextWord = .error fault) :
    m.executed? = none := by
  rw [executed?, h]
  cases m.mode <;> rfl

theorem executed?_of_fetched {word : UInt16} (hmode : m.mode = .running)
    (hword : m.nextWord = .ok word) : m.executed? = some (Instruction.decode word) := by
  simp [executed?, hmode, hword]

/-- Moving past a word makes no difference to what an instruction can tell. -/
theorem overlooks_pastWord (m : Machine) (p : Periphery) (i : Instruction) :
    m.pastWord.Overlooks p i ↔ m.Overlooks p i := by
  cases i <;> exact Iff.rfl

theorem peripheryAfter_pastWord (m : Machine) (p : Periphery) (i : Instruction) :
    m.pastWord.peripheryAfter p i = m.peripheryAfter p i := by
  cases i <;> rfl

/-- No step writes the edge. -/
theorem peripheryAfterStep_edge (m : Machine) (p : Periphery) (edge : SpriteEdge) :
    m.peripheryAfterStep { p with edge := edge } =
      { m.peripheryAfterStep p with edge := edge } := by
  simp only [peripheryAfterStep]
  cases m.executed? with
  | none => rfl
  | some i => cases i <;> rfl

theorem step_periphery (m : Machine) (byte : UInt8) :
    (m.step byte).machine.periphery = m.peripheryAfterStep m.periphery := by
  cases hmode : m.mode with
  | awaiting x =>
    rw [step_of_awaiting hmode, peripheryAfterStep, executed?_of_awaiting hmode]
    simp only [awaitKey]
    split <;> rfl
  | running =>
    cases hword : m.nextWord with
    | error fault =>
      rw [step_of_unfetched hmode hword, peripheryAfterStep, executed?_of_unfetched hword]
    | ok word =>
      rw [step_of_fetched hmode hword, peripheryAfterStep, executed?_of_fetched hmode hword,
        execute_periphery, peripheryAfter_pastWord]
      rfl

/-- A step that cannot tell other parts around the machine from its own does the
    same with them. -/
theorem step_withPeriphery (hkeys : m.mode = .running ∨ p.keypad = m.keypad)
    (h : ∀ i, m.Fetches i → m.Overlooks p i) (byte : UInt8) :
    (m.withPeriphery p).step byte = (m.step byte).withPeriphery (m.peripheryAfterStep p) := by
  cases hmode : m.mode with
  | awaiting x =>
    have hother : (m.withPeriphery p).mode = .awaiting x := hmode
    have hkeypad : (m.withPeriphery p).keypad = m.keypad :=
      hkeys.resolve_left (by rw [hmode]; exact Mode.noConfusion)
    rw [step_of_awaiting hmode, step_of_awaiting hother, peripheryAfterStep,
      executed?_of_awaiting hmode]
    simp only [awaitKey, hkeypad]
    cases m.keypad.lowest? <;> rfl
  | running =>
    have hother : (m.withPeriphery p).mode = .running := hmode
    cases hword : m.nextWord with
    | error fault =>
      rw [step_of_unfetched hmode hword, step_of_unfetched hother hword, peripheryAfterStep,
        executed?_of_unfetched hword]
      rfl
    | ok word =>
      have hi := executed?_of_fetched hmode hword
      have hoverlooks : m.pastWord.Overlooks p (Instruction.decode word) :=
        (overlooks_pastWord m p _).2 (h _ (executed?_eq_some_iff.1 hi))
      have hpast : (m.withPeriphery p).pastWord = m.pastWord.withPeriphery p := rfl
      rw [step_of_fetched hmode hword, step_of_fetched hother hword, hpast, peripheryAfterStep, hi,
        execute_withPeriphery hoverlooks, peripheryAfter_pastWord]

end Machine

end Chip8

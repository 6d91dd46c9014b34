-- SUMMARY: Sums of addresses are exact: no run takes one past the ends of the sixteen bits.
import Chip8.Proofs.Frames
import Chip8.Proofs.Instruction
import Chip8.Proofs.Machine.Counter
import Chip8.Proofs.Machine.Faults
import Chip8.Proofs.Resume

/-! # Sums of addresses

The program counter and I are words of sixteen bits, and sums of words wrap. A careful
machine works out the same sums, but stops short of one that does not fit. No run gets
it to stop: a word can be taken only inside of memory, the addresses in words have twelve
bits, I moves on only over bytes that were accessed, and a machine that waits stands on
the word that waits. So all of these sums are those of numbers. The one sum that may wrap
is `Fx1E`, which adds whatever it is given to I. -/

namespace Chip8

namespace Address

/-- The address `n` bytes further on, if there is one. -/
def forward? (a n : UInt16) : Option UInt16 :=
  if a.toNat + n.toNat < UInt16.size then some (a + n) else none

/-- The address `n` bytes back, if there is one. -/
def back? (a n : UInt16) : Option UInt16 :=
  if n.toNat ≤ a.toNat then some (a - n) else none

variable {a b n : UInt16}

theorem toNat_add_of_lt (h : a.toNat + n.toNat < UInt16.size) :
    (a + n).toNat = a.toNat + n.toNat := by
  rw [UInt16.toNat_add]
  exact Nat.mod_eq_of_lt h

/-- What lies further on is told by a sum of numbers. -/
theorem forward?_eq_some_iff : forward? a n = some b ↔ b.toNat = a.toNat + n.toNat := by
  constructor
  · intro h
    obtain ⟨hlt, heq⟩ := Option.ite_none_right_eq_some.1 h
    rw [← Option.some.inj heq, toNat_add_of_lt hlt]
  · intro h
    have hlt : a.toNat + n.toNat < UInt16.size := h ▸ b.toNat_lt_size
    have hsum : a + n = b := UInt16.toNat_inj.1 ((toNat_add_of_lt hlt).trans h.symm)
    rw [forward?, if_pos hlt, hsum]

theorem toNat_sub_of_le (h : n.toNat ≤ a.toNat) : (a - n).toNat = a.toNat - n.toNat :=
  UInt16.toNat_sub_of_le a n (UInt16.le_iff_toNat_le.2 h)

/-- What lies back is told by a difference of numbers. -/
theorem back?_eq_some_iff : back? a n = some b ↔ b.toNat + n.toNat = a.toNat := by
  constructor
  · intro h
    obtain ⟨hle, heq⟩ := Option.ite_none_right_eq_some.1 h
    rw [← Option.some.inj heq, toNat_sub_of_le hle, Nat.sub_add_cancel hle]
  · intro h
    have hle : n.toNat ≤ a.toNat := h ▸ Nat.le_add_left _ _
    have hdifference : a - n = b :=
      UInt16.toNat_inj.1 ((toNat_sub_of_le hle).trans (Nat.sub_eq_of_eq_add h.symm))
    rw [back?, if_pos hle, hdifference]

theorem forward?_of_lt (h : a.toNat + n.toNat < UInt16.size) : forward? a n = some (a + n) :=
  forward?_eq_some_iff.2 (toNat_add_of_lt h)

theorem back?_of_le (h : n.toNat ≤ a.toNat) : back? a n = some (a - n) :=
  back?_eq_some_iff.2 ((congrArg (· + n.toNat) (toNat_sub_of_le h)).trans (Nat.sub_add_cancel h))

end Address

namespace Machine

open Address

/-! ## Careful machines -/

/-- Moves past one more word if a condition holds. -/
def carefulSkipIf (m : Machine) (condition : Bool) : Option Machine :=
  if condition then (forward? m.pc 2).map fun pc => { m with pc := pc } else some m

/-- Moves I behind the registers from V0 to VX. -/
def carefulAdvanceIndex (m : Machine) (x : Register) : Option Machine :=
  (forward? m.index (UInt16.ofNat (x + 1))).map fun index => { m with index := index }

/-- Takes the lowest key that is down, or goes back to the word and waits. -/
def carefulExecuteAwaitKey (m : Machine) (x : Register) : Option Machine :=
  match m.keypad.lowest? with
  | some key => some (m.setRegister x key.toByte)
  | none => (back? m.pc 2).map fun pc => { m with pc := pc, mode := .awaiting x }

def carefulExecuteStore (m : Machine) (x : Register) : Option (Except Fault Machine) :=
  match m.memory.writeBytes m.index.toNat (m.lowRegisters x) with
  | .error fault => some (.error fault)
  | .ok memory => ({ m with memory := memory }.carefulAdvanceIndex x).map .ok

def carefulExecuteRecall (m : Machine) (x : Register) : Option (Except Fault Machine) :=
  match m.memory.slice m.index.toNat (x + 1) with
  | .error fault => some (.error fault)
  | .ok bytes => ((m.setLowRegisters bytes).carefulAdvanceIndex x).map .ok

/-- The machine after an instruction. -/
def carefulEffect (byte : UInt8) (m : Machine) : Instruction → Option (Except Fault Machine)
  | .jumpPlus nnn =>
    (forward? nnn (m.register 0).toUInt16).map fun pc => .ok { m with pc := pc }
  | .skipEqual x nn => (m.carefulSkipIf (m.register x == nn)).map .ok
  | .skipNotEqual x nn => (m.carefulSkipIf (m.register x != nn)).map .ok
  | .skipSame x y => (m.carefulSkipIf (m.register x == m.register y)).map .ok
  | .skipDifferent x y => (m.carefulSkipIf (m.register x != m.register y)).map .ok
  | .skipPressed x => (m.carefulSkipIf (m.keypad.isDown (m.register x))).map .ok
  | .skipReleased x => (m.carefulSkipIf (!m.keypad.isDown (m.register x))).map .ok
  | .awaitKey x => (m.carefulExecuteAwaitKey x).map .ok
  | .store x => m.carefulExecuteStore x
  | .recall x => m.carefulExecuteRecall x
  | i => some (m.effect byte i)

/-- What an instruction has to say. -/
def carefulNoticesOf (m : Machine) : Instruction → Option (List Notice)
  | .unknown word => (back? m.pc 2).map fun address => [.unknownWord word address]
  | _ => some []

/-- Executes one instruction. -/
def carefulExecute (byte : UInt8) (i : Instruction) (m : Machine) : Option (Outcome Progress) :=
  match m.carefulEffect byte i with
  | some (.ok after) =>
    (m.carefulNoticesOf i).map fun notices => ⟨.ok (m.progressOf i), after, notices⟩
  | some (.error fault) => some ⟨.error fault, m, []⟩
  | none => none

/-- The machine after a word was taken. -/
def carefulPastWord (m : Machine) : Option Machine :=
  (forward? m.pc 2).map fun pc => { m with pc := pc }

/-- A step of a machine that waits for a key. -/
def carefulAwaitKey (x : Register) (m : Machine) : Option (Progress × Machine) :=
  match m.keypad.lowest? with
  | some key =>
    (forward? m.pc 2).map fun pc =>
      (.proceed, { m.setRegister x key.toByte with pc := pc, mode := .running })
  | none => some (.wait, m)

/-- One step, unless a sum of addresses in it does not fit. -/
def carefulStep (byte : UInt8) (m : Machine) : Option (Outcome Progress) :=
  match m.mode with
  | .awaiting x => (m.carefulAwaitKey x).map fun (progress, after) => ⟨.ok progress, after, []⟩
  | .running =>
    match m.nextWord with
    | .error fault => some ⟨.error fault, m, []⟩
    | .ok word => m.carefulPastWord.bind (carefulExecute byte (Instruction.decode word))

variable {m after : Machine} {byte : UInt8} {i : Instruction} {x : Register}

/-! ## Instructions behind their word -/

/-- A machine has moved past a word that lies inside of memory. -/
structure Behind (m : Machine) : Prop where
  low : 2 ≤ m.pc.toNat
  high : m.pc.toNat ≤ 0x1000

theorem carefulSkipIf_eq (h : m.Behind) (condition : Bool) :
    m.carefulSkipIf condition = some (m.skipIf condition) := by
  have hpc : forward? m.pc 2 = some (m.pc + 2) :=
    forward?_of_lt (Nat.lt_of_le_of_lt (Nat.add_le_add_right h.high 2) (by decide))
  cases condition with
  | false => rfl
  | true =>
    simp only [carefulSkipIf, hpc]
    rfl

theorem toNat_ofNat_register (x : Register) : (UInt16.ofNat (x + 1)).toNat = x + 1 :=
  UInt16.toNat_ofNat_of_lt' (Nat.lt_of_le_of_lt x.isLt (by decide))

theorem carefulAdvanceIndex_eq (h : m.index.toNat + (x + 1) ≤ memorySize) :
    m.carefulAdvanceIndex x = some (m.advanceIndex x) := by
  have hindex : forward? m.index (UInt16.ofNat (x + 1)) =
      some (m.index + UInt16.ofNat (x + 1)) := by
    refine forward?_of_lt ?_
    rw [toNat_ofNat_register]
    exact Nat.lt_of_le_of_lt h (by decide)
  simp only [carefulAdvanceIndex, hindex]
  rfl

theorem carefulExecuteAwaitKey_eq (h : m.Behind) (x : Register) :
    m.carefulExecuteAwaitKey x = some (m.executeAwaitKey x).2 := by
  have hpc : back? m.pc 2 = some (m.pc - 2) := back?_of_le h.low
  cases hkey : m.keypad.lowest? with
  | some key => rw [carefulExecuteAwaitKey, hkey, executeAwaitKey_of_some x hkey]
  | none =>
    rw [carefulExecuteAwaitKey, hkey, executeAwaitKey_of_none x hkey]
    simp only [hpc]
    rfl

theorem setLowRegisters_index (m : Machine) (bytes : List UInt8) :
    (m.setLowRegisters bytes).index = m.index := by
  obtain ⟨registers, heq⟩ := m.setLowRegisters_eq bytes
  rw [heq]

theorem carefulExecuteStore_eq (m : Machine) (x : Register) :
    m.carefulExecuteStore x = some (m.executeStore x) := by
  simp only [carefulExecuteStore, executeStore]
  cases hwrite : m.memory.writeBytes m.index.toNat (m.lowRegisters x) with
  | error fault => rfl
  | ok memory =>
    have hinside := (Memory.writeBytes_eq_ok_iff.1 hwrite).1
    rw [length_lowRegisters] at hinside
    have hindex := carefulAdvanceIndex_eq (m := { m with memory := memory }) hinside
    exact congrArg (Option.map Except.ok) hindex

theorem carefulExecuteRecall_eq (m : Machine) (x : Register) :
    m.carefulExecuteRecall x = some (m.executeRecall x) := by
  simp only [carefulExecuteRecall, executeRecall]
  cases hslice : m.memory.slice m.index.toNat (x + 1) with
  | error fault => rfl
  | ok bytes =>
    have hinside : m.index.toNat + (x + 1) ≤ memorySize := (Memory.slice_eq_ok_iff.1 hslice).1
    rw [← m.setLowRegisters_index bytes] at hinside
    exact congrArg (Option.map Except.ok) (carefulAdvanceIndex_eq hinside)

/-- How far a `Bnnn` can get. -/
theorem plusRegister_le (m : Machine) {nnn : UInt16} (h : nnn.toNat ≤ 0xFFF) :
    nnn.toNat + (m.register 0).toUInt16.toNat ≤ 0x10FE := by
  have hoffset : (m.register 0).toUInt16.toNat ≤ 0xFF := by
    rw [UInt8.toNat_toUInt16]
    exact Nat.le_of_lt_succ (m.register 0).toNat_lt
  exact Nat.add_le_add h hoffset

/-- Behind its word, an instruction works out no sum that does not fit. -/
theorem carefulEffect_eq (h : m.Behind)
    (hi : ∀ nnn, i.target? = some nnn → nnn.toNat ≤ 0xFFF) :
    m.carefulEffect byte i = some (m.effect byte i) := by
  cases i with
  | jumpPlus nnn =>
    have hsum := m.plusRegister_le (hi nnn rfl)
    have hpc : forward? nnn (m.register 0).toUInt16 = some (nnn + (m.register 0).toUInt16) :=
      forward?_of_lt (Nat.lt_of_le_of_lt hsum (by decide))
    exact congrArg (Option.map fun pc => Except.ok { m with pc := pc }) hpc
  | skipEqual | skipNotEqual | skipSame | skipDifferent | skipPressed | skipReleased =>
    exact congrArg (Option.map Except.ok) (carefulSkipIf_eq h _)
  | awaitKey x => exact congrArg (Option.map Except.ok) (carefulExecuteAwaitKey_eq h x)
  | store x => exact m.carefulExecuteStore_eq x
  | «recall» x => exact m.carefulExecuteRecall_eq x
  | _ => rfl

theorem carefulNoticesOf_eq (h : m.Behind) (i : Instruction) :
    m.carefulNoticesOf i = some (m.noticesOf i) := by
  cases i with
  | unknown word =>
    have hpc : back? m.pc 2 = some (m.pc - 2) := back?_of_le h.low
    simp only [carefulNoticesOf, hpc]
    rfl
  | _ => rfl

theorem carefulExecute_eq (h : m.Behind)
    (hi : ∀ nnn, i.target? = some nnn → nnn.toNat ≤ 0xFFF) :
    m.carefulExecute byte i = some (m.execute byte i) := by
  simp only [carefulExecute, carefulEffect_eq h hi, execute]
  cases m.effect byte i with
  | error fault => rfl
  | ok after =>
    simp only [carefulNoticesOf_eq h]
    rfl

/-! ## Steps -/

theorem toNat_pastWord_pc (h : m.pc.toNat + 1 < memorySize) :
    m.pastWord.pc.toNat = m.pc.toNat + 2 :=
  toNat_add_of_lt (Nat.lt_trans (Nat.succ_lt_succ h) (by decide))

theorem behind_pastWord (h : m.pc.toNat + 1 < memorySize) : m.pastWord.Behind := by
  have hpc := toNat_pastWord_pc h
  exact ⟨hpc ▸ Nat.le_add_left 2 _, hpc ▸ Nat.succ_le_of_lt h⟩

theorem carefulPastWord_eq (h : m.pc.toNat + 1 < memorySize) :
    m.carefulPastWord = some m.pastWord := by
  have hpc : forward? m.pc 2 = some (m.pc + 2) :=
    forward?_of_lt (Nat.lt_trans (Nat.succ_lt_succ h) (by decide))
  simp only [carefulPastWord, hpc]
  rfl

/-- No step of a machine that runs works out a sum that does not fit, and no step of a
    machine that waits, unless there is no address behind the word that it waits on. -/
theorem carefulStep_eq (h : ∀ x, m.mode = .awaiting x → m.pc.toNat + 2 < UInt16.size)
    (byte : UInt8) : m.carefulStep byte = some (m.step byte) := by
  cases hmode : m.mode with
  | awaiting x =>
    have hpc : forward? m.pc 2 = some (m.pc + 2) := forward?_of_lt (h x hmode)
    rw [step_of_awaiting hmode]
    simp only [carefulStep, hmode, carefulAwaitKey, awaitKey]
    cases m.keypad.lowest? with
    | none => rfl
    | some key =>
      simp only [hpc]
      rfl
  | running =>
    cases hword : m.nextWord with
    | error fault =>
      rw [step_of_unfetched hmode hword]
      simp only [carefulStep, hmode, hword]
    | ok word =>
      have hinside := inside_of_nextWord hword
      rw [step_of_fetched hmode hword]
      simp only [carefulStep, hmode, hword, carefulPastWord_eq hinside, Option.bind_some]
      exact carefulExecute_eq (behind_pastWord hinside) fun _ =>
        Instruction.toNat_le_of_target?

/-- There is no address behind the last word. -/
example : { start .spill with
    pc := 0xFFFF, mode := .awaiting 0, keypad := Keypad.released.set 7 true }.carefulStep 0 =
      none := rfl

/-! ## I -/

/-- An access that succeeds leaves I behind its bytes, inside of memory or at its end. -/
theorem index_of_effect (hi : i = .store x ∨ i = .recall x) (h : m.effect byte i = .ok after) :
    after.index.toNat = m.index.toNat + (x + 1) ∧ after.index.toNat ≤ memorySize := by
  have hspan : i.span? = some (x.val + 1) := by
    rcases hi with rfl | rfl <;> rfl
  have hinside : m.index.toNat + (x + 1) ≤ memorySize := by
    refine Nat.le_of_not_lt fun hout => ?_
    rw [effect_eq_error_iff.2 (.outside hspan hout)] at h
    cases h
  have hindex : after.index = m.index + UInt16.ofNat (x + 1) := by
    rcases hi with rfl | rfl
    · obtain ⟨_, -, rfl⟩ := map_eq_ok_iff.1 h
      rfl
    · obtain ⟨bytes, -, rfl⟩ := map_eq_ok_iff.1 h
      exact congrArg (· + UInt16.ofNat (x + 1)) (m.setLowRegisters_index bytes)
  have hsum : after.index.toNat = m.index.toNat + (x + 1) := by
    have hfits : m.index.toNat + (UInt16.ofNat (x + 1)).toNat < UInt16.size := by
      rw [toNat_ofNat_register]
      exact Nat.lt_of_le_of_lt hinside (by decide)
    rw [hindex, toNat_add_of_lt hfits, toNat_ofNat_register]
  exact ⟨hsum, hsum ▸ hinside⟩

theorem index_of_step {progress : Progress} (hi : m.Fetches (.store x) ∨ m.Fetches (.recall x))
    (hok : (m.step byte).result = .ok progress) :
    (m.step byte).machine.index.toNat = m.index.toNat + (x + 1) ∧
      (m.step byte).machine.index.toNat ≤ memorySize := by
  rcases hi with hstore | hrecall
  · exact index_of_effect (m := m.pastWord) (.inl rfl) (hstore.effect_eq_ok hok)
  · exact index_of_effect (m := m.pastWord) (.inr rfl) (hrecall.effect_eq_ok hok)

/-! ## Machines that were never restored -/

/-- The program counter is no further than a `Bnnn` can get, and every routine returns
    behind a word that lies inside of memory. -/
structure Grounded (m : Machine) : Prop where
  counter : m.pc.toNat ≤ 0x10FE
  callers : ∀ a ∈ m.stack, 2 ≤ a.toNat ∧ a.toNat ≤ 0x1000

theorem grounded_start (edge : SpriteEdge) : (start edge).Grounded :=
  ⟨(by decide : (UInt16.ofNat programStart).toNat ≤ 0x10FE), fun _ ha => absurd ha List.not_mem_nil⟩

theorem toNat_pcAfter_le (h : m.Behind) (hcallers : ∀ a ∈ m.stack, 2 ≤ a.toNat ∧ a.toNat ≤ 0x1000)
    (hi : ∀ nnn, i.target? = some nnn → nnn.toNat ≤ 0xFFF) :
    (m.pcAfter i).toNat ≤ 0x10FE := by
  have hstay : m.pc.toNat ≤ 0x10FE := Nat.le_trans h.high (by decide)
  have hskip : ∀ skips : Bool, (if skips then m.pc + 2 else m.pc).toNat ≤ 0x10FE := by
    intro skips
    split
    · have hsum := Nat.add_le_add_right h.high 2
      rw [toNat_add_of_lt (Nat.lt_of_le_of_lt hsum (by decide))]
      exact Nat.le_trans hsum (by decide)
    · exact hstay
  cases i with
  | jump nnn | call nnn => exact Nat.le_trans (hi nnn rfl) (by decide)
  | jumpPlus nnn =>
    have hsum := m.plusRegister_le (hi nnn rfl)
    rw [pcAfter_jumpPlus, toNat_add_of_lt (Nat.lt_of_le_of_lt hsum (by decide))]
    exact hsum
  | leave =>
    rw [pcAfter_leave]
    cases hcaller : m.stack.getLast? with
    | none => exact hstay
    | some caller =>
      exact Nat.le_trans (hcallers caller (List.mem_of_getLast? hcaller)).2 (by decide)
  | awaitKey x =>
    rw [pcAfter_awaitKey]
    split
    · rw [toNat_sub_of_le (n := 2) h.low]
      exact Nat.le_trans (Nat.sub_le _ _) hstay
    · exact hstay
  | _ => exact hskip _

theorem Grounded.effect (hm : m.Grounded) (h : m.Behind)
    (hi : ∀ nnn, i.target? = some nnn → nnn.toNat ≤ 0xFFF)
    (hok : m.effect byte i = .ok after) : after.Grounded := by
  constructor
  · rw [pc_of_effect hok]
    exact toNat_pcAfter_le h hm.callers hi
  · rw [(effect_of_ok hok).stack]
    cases i with
    | call nnn =>
      intro a ha
      rcases List.mem_append.1 ha with hold | hnew
      · exact hm.callers a hold
      · rw [List.mem_singleton.1 hnew]
        exact ⟨h.low, h.high⟩
    | leave => exact fun a ha => hm.callers a (List.dropLast_subset m.stack ha)
    | _ => exact hm.callers

theorem Grounded.pastWord (hm : m.Grounded) (h : m.pc.toNat + 1 < memorySize) :
    m.pastWord.Grounded :=
  ⟨Nat.le_trans (behind_pastWord h).high (by decide), hm.callers⟩

theorem Grounded.step (hm : m.Grounded) (hparked : m.Parked) (byte : UInt8) :
    (m.step byte).machine.Grounded := by
  cases hmode : m.mode with
  | awaiting x =>
    have hpast := hm.pastWord (Nat.succ_lt_succ (Nat.lt_of_le_of_lt (hparked.pc_le hmode) (by decide)))
    rw [step_of_awaiting hmode]
    unfold Machine.awaitKey
    split
    · exact ⟨hpast.counter, hm.callers⟩
    · exact hm
  | running =>
    cases hword : m.nextWord with
    | error fault =>
      rw [step_of_unfetched hmode hword]
      exact hm
    | ok word =>
      have hinside := inside_of_nextWord hword
      rw [step_of_fetched hmode hword]
      cases heffect : m.pastWord.effect byte (Instruction.decode word) with
      | error fault =>
        rw [execute_of_error heffect]
        exact hm.pastWord hinside
      | ok after =>
        rw [execute_of_ok heffect]
        exact (hm.pastWord hinside).effect (behind_pastWord hinside)
          (fun _ => Instruction.toNat_le_of_target?) heffect

theorem Grounded.serve (hm : m.Grounded) (hparked : m.Parked) {r : Request}
    (hr : ∀ state, r ≠ .restore state) (dice : Dice) : (m.serve dice r).machine.Grounded := by
  have hreset : m.reset.Grounded := grounded_start m.edge
  cases r with
  | load program =>
    simp only [Machine.serve, Machine.load]
    split
    · exact hm
    · exact ⟨hreset.counter, hreset.callers⟩
  | reset => exact hreset
  | restore state => exact absurd rfl (hr state)
  | step => exact hm.step hparked dice.top
  | tickTimers | press | release | setKey => exact ⟨hm.counter, hm.callers⟩

theorem Grounded.serveAll (hm : m.Grounded) (hparked : m.Parked) (dice : Dice)
    {rs : List Request} (hrs : ∀ state, .restore state ∉ rs) :
    (m.serveAll dice rs).Grounded := by
  induction rs generalizing m dice with
  | nil => exact hm
  | cons r rs ih =>
    have hhead : ∀ state, r ≠ .restore state := by
      rintro state rfl
      exact hrs state List.mem_cons_self
    exact ih (hm.serve hparked hhead dice) (hparked.serve dice r) _
      fun state hmem => hrs state (List.mem_cons_of_mem r hmem)

/-! ## Rows of requests -/

/-- Whatever is done with a machine, it comes to a row of requests, and nowhere in that
    row does a step work out a sum of addresses that does not fit: a machine that is
    careful takes the same step. After an access to the bytes at I that succeeds, I is
    a sum of numbers and lies inside of memory or at its end. If nothing is restored,
    the program counter is never further than `0x10FE`, and every address on the stack
    is behind a word of memory. -/
theorem addresses_never_wrap (edge : SpriteEdge) (dice : Dice) (ds : List Demand) :
    let now := (start edge).turn dice
    let asked := (start edge).requestsOfAll dice ds
    (now.andThen asked).machine = ((start edge).meetAll dice ds).1 ∧
      ∀ front, front <+: asked →
        let m := (now.andThen front).machine
        (∀ byte, m.carefulStep byte = some (m.step byte)) ∧
          (∀ byte x progress, m.Fetches (.store x) ∨ m.Fetches (.recall x) →
            (m.step byte).result = .ok progress →
              (m.step byte).machine.index.toNat = m.index.toNat + (x + 1) ∧
                (m.step byte).machine.index.toNat ≤ 4096) ∧
          ((∀ state, .request (.restore state) ∉ ds) →
            m.pc.toNat ≤ 0x10FE ∧ ∀ a ∈ m.stack, 2 ≤ a.toNat ∧ a.toNat ≤ 0x1000) := by
  intro now asked
  have hstart : (start edge).Parked := parked_of_running rfl
  refine ⟨congrArg Prod.fst (now.andThen_requestsOfAll ds), ?_⟩
  intro front hfront m
  have hserve : m = (start edge).serveAll dice front := now.andThen_machine front
  have hparked : m.Parked := hserve ▸ hstart.serveAll dice front
  refine ⟨carefulStep_eq fun x hmode => ?_, fun _ _ _ hi hok => index_of_step hi hok, ?_⟩
  · exact Nat.lt_of_le_of_lt (Nat.add_le_add_right (hparked.pc_le hmode) 2) (by decide)
  · intro hds
    have hrs : ∀ state, .restore state ∉ front := fun state hmem =>
      (mem_requestsOfAll (hfront.subset hmem)).elim (hds state) nofun
    have hm : m.Grounded := hserve ▸ (grounded_start edge).serveAll hstart dice hrs
    exact ⟨hm.counter, hm.callers⟩

/-- A program that stores V0 in the last byte of memory. -/
def brimProgram : List UInt8 := [0xAF, 0xFF, 0xF0, 0x55]

/-- A machine with that program. -/
def brim : Machine :=
  { start .spill with memory := ⟨Memory.place Memory.fresh.cells programStart brimProgram⟩ }

/-- The same machine after the first word. -/
def brimming : Machine := { brim with pc := 0x202, index := 0xFFF }

theorem brim_fetches : brim.Fetches (.setIndex 0xFFF) where
  running := rfl
  inside := by decide
  decoded := by
    simp [wordAt, brim, brimProgram, Memory.place, start, programStart]
    decide

theorem brimming_fetches : brimming.Fetches (.store 0) where
  running := rfl
  inside := by decide
  decoded := by
    simp [wordAt, brimming, brim, brimProgram, Memory.place, start, programStart]
    decide

theorem brim_step (byte : UInt8) : brim.step byte = ⟨.ok .proceed, brimming, []⟩ := by
  obtain ⟨hmode, word, hword, hi⟩ := fetches_iff.1 brim_fetches
  rw [step_of_fetched hmode hword, hi]
  rfl

theorem brim_load (dice : Dice) :
    (start .spill).serve dice (.load brimProgram) = ⟨.ok .done, brim, dice⟩ := rfl

theorem brim_serve (dice : Dice) : (brim.serve dice .step).machine = brimming := by
  simp only [serve, brim_step]

theorem brimming_step (byte : UInt8) : (brimming.step byte).result = .ok .proceed := by
  obtain ⟨hmode, word, hword, hi⟩ := fetches_iff.1 brimming_fetches
  rw [step_of_fetched hmode hword, hi]
  cases heffect : brimming.pastWord.effect byte (.store 0) with
  | error fault =>
    have hout := (refuses_iff_of_span rfl).1 (effect_eq_error_iff.1 heffect)
    exact absurd hout.1 (by decide)
  | ok after =>
    rw [execute_of_ok heffect]
    rfl

/-- Storing in the last byte leaves I at the end of memory, and the careful machine
    agrees. -/
theorem brimming_index :
    let ds : List Demand := [.request (.load brimProgram), .request .step, .request .step]
    let front : List Request := [.load brimProgram, .step]
    let m := (((start .spill).turn (.ofSeed 0)).andThen front).machine
    front <+: (start .spill).requestsOfAll (.ofSeed 0) ds ∧ m = brimming ∧
      m.Fetches (.store 0) ∧ (m.step 0).result = .ok .proceed ∧
      m.carefulStep 0 = some (m.step 0) ∧ (m.step 0).machine.index.toNat = 4096 ∧
      m.pc.toNat ≤ 0x10FE := by
  intro ds front m
  have hfront : front <+: (start .spill).requestsOfAll (.ofSeed 0) ds := ⟨[.step], rfl⟩
  have hm : m = brimming := by
    simp only [m, front, Turn.andThen_cons, turn, brim_load]
    exact brim_serve _
  have hi : m.Fetches (.store 0) := hm ▸ brimming_fetches
  have hok : (m.step 0).result = .ok .proceed := hm ▸ brimming_step 0
  have hrestore : ∀ state, .request (.restore state) ∉ ds := by simp [ds]
  obtain ⟨hcareful, hindex, hgrounded⟩ := (addresses_never_wrap .spill (.ofSeed 0) ds).2 front hfront
  refine ⟨hfront, hm, hi, hok, hcareful 0, ?_, (hgrounded hrestore).1⟩
  have hstart : m.index.toNat = 0xFFF := by
    rw [hm]
    rfl
  rw [(hindex 0 0 _ (.inl hi) hok).1, hstart]
  rfl

end Machine

end Chip8

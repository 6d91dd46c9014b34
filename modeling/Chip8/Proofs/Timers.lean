-- SUMMARY: Timers count down to zero, and the machine beeps once for each time the sound timer is set.
import Chip8.Proofs.Machine.Periphery
import Chip8.Proofs.Requests

/-! # Timers

A timer is set by an instruction of its own, by a load, by a reset and by a restore,
and every tick takes one off it until it is zero. The machine beeps at the tick that
takes the last one off the sound timer, so it cannot beep more often than that timer
was set to something. -/

namespace Chip8

inductive Timer where
  | delay
  | sound

/-- What a timer shows. -/
def Periphery.timer (p : Periphery) : Timer → UInt8
  | .delay => p.delay
  | .sound => p.sound

/-- What a timer of a machine shows. -/
def Machine.timer (m : Machine) (τ : Timer) : UInt8 := m.periphery.timer τ

/-- The register that an instruction puts into a timer, if it does. -/
def Instruction.timerSource? (τ : Timer) (i : Instruction) : Option Register :=
  match τ, i with
  | .delay, .setDelay x => some x
  | .sound, .setSound x => some x
  | _, _ => none

namespace Operation

/-- The instruction that an operation executes on a machine, if it executes one. -/
def executed? (m : Machine) : Operation → Option Instruction
  | .request .step => m.executed?
  | .execute i => some i
  | _ => none

def isTick : Operation → Bool
  | .request .tickTimers => true
  | _ => false

end Operation

/-- An operation on a machine, and what came of it. -/
structure Deed where
  before : Machine
  operation : Operation
  turn : Turn

/-- An operation together with what comes of it. -/
def Machine.deed (m : Machine) (dice : Dice) (o : Operation) : Deed := ⟨m, o, m.perform dice o⟩

/-- Operations one after another, each with what came of it. -/
def Machine.deeds (m : Machine) (dice : Dice) : List Operation → List Deed
  | [] => []
  | o :: os => m.deed dice o :: (m.perform dice o).machine.deeds (m.perform dice o).dice os

namespace Deed

/-- What a tick answers: whether it beeps. -/
def beep? (d : Deed) : Option Bool :=
  match d.turn.result with
  | .ok (.beep sounds) => some sounds
  | _ => none

/-- What the ticks among some deeds answer, one after another. -/
def beeps (ds : List Deed) : List Bool := ds.filterMap beep?

/-- Whether a timer is set: by an instruction, or by a load, a reset or a restore that
    succeeds. -/
def sets (d : Deed) (τ : Timer) : Bool :=
  match d.operation with
  | .request (.load _) | .request .reset | .request (.restore _) => d.turn.result.isOk
  | o => ((o.executed? d.before).bind (·.timerSource? τ)).isSome

/-- Whether the sound timer is set to something: by an instruction with a register
    that is not zero, or by a restore of such a state that succeeds. -/
def arms (d : Deed) : Bool :=
  match d.operation with
  | .request (.restore state) => d.turn.result.isOk && state.sound != 0
  | o =>
    match o.executed? d.before with
    | some (.setSound x) => d.before.register x != 0
    | _ => false

end Deed

namespace Machine

variable {m : Machine} {dice : Dice} {o : Operation} {i : Instruction} {τ : Timer}

/-! ## One operation -/

theorem toNat_countDown (timer : UInt8) : (countDown timer).toNat = timer.toNat - 1 := by
  unfold countDown
  split
  · next h =>
    rw [h]
    rfl
  · next h =>
    have hpos : 1 ≤ timer := by
      rw [UInt8.le_iff_toNat_le]
      exact Nat.pos_of_ne_zero fun hzero => h (UInt8.toNat_inj.1 hzero)
    exact UInt8.toNat_sub_of_le timer 1 hpos

/-- Instructions write a timer only to put a register into it. -/
theorem timer_peripheryAfter (m : Machine) (p : Periphery) (i : Instruction) (τ : Timer) :
    (m.peripheryAfter p i).timer τ = ((i.timerSource? τ).map m.register).getD (p.timer τ) := by
  cases τ <;> cases i <;> rfl

theorem timer_execute (m : Machine) (byte : UInt8) (i : Instruction) (τ : Timer) :
    (m.execute byte i).machine.timer τ = ((i.timerSource? τ).map m.register).getD (m.timer τ) := by
  rw [timer, execute_periphery, timer_peripheryAfter]
  rfl

theorem timer_step (m : Machine) (byte : UInt8) (τ : Timer) :
    (m.step byte).machine.timer τ =
      ((m.executed?.bind (·.timerSource? τ)).map m.register).getD (m.timer τ) := by
  rw [timer, step_periphery, peripheryAfterStep]
  cases m.executed? with
  | none => rfl
  | some i => exact m.timer_peripheryAfter m.periphery i τ

theorem load_of_not_ok {program : List UInt8} (h : (m.load program).result.isOk = false) :
    (m.load program).machine = m := by
  unfold load at h ⊢
  split at h
  · rfl
  · cases h

theorem load_sound {program : List UInt8} (h : (m.load program).result.isOk = true) :
    (m.load program).machine.sound = 0 := by
  unfold load at h ⊢
  split at h
  · cases h
  · rfl

theorem restore_of_not_ok {s : SaveState} (h : (m.restore s).result.isOk = false) :
    (m.restore s).machine = m := by
  unfold restore at h ⊢
  split at h
  · rfl
  · cases h

theorem restore_sound {s : SaveState} (h : (m.restore s).result.isOk = true) :
    (m.restore s).machine.sound = s.sound := by
  unfold restore at h ⊢
  split at h
  · cases h
  · rfl

/-- A timer that is not set goes down with a tick and stays otherwise. -/
theorem timer_perform (h : (m.deed dice o).sets τ = false) :
    (m.perform dice o).machine.timer τ =
      if o.isTick then countDown (m.timer τ) else m.timer τ := by
  cases o with
  | execute i =>
    have hsource : i.timerSource? τ = none :=
      Option.isNone_iff_eq_none.1 (Option.isSome_eq_false_iff.1 h)
    exact (m.timer_execute dice.top i τ).trans (by rw [hsource]; rfl)
  | fetch =>
    simp only [perform, fetch]
    split <;> rfl
  | request r =>
    cases r with
    | load program =>
      have hfails : (m.load program).result.isOk = false := (isOk_map _ _).symm.trans h
      exact congrArg (timer · τ) (load_of_not_ok hfails)
    | restore s =>
      have hfails : (m.restore s).result.isOk = false := (isOk_map _ _).symm.trans h
      exact congrArg (timer · τ) (restore_of_not_ok hfails)
    | reset => cases h
    | step =>
      have hsource : m.executed?.bind (·.timerSource? τ) = none :=
        Option.isNone_iff_eq_none.1 (Option.isSome_eq_false_iff.1 h)
      exact (m.timer_step dice.top τ).trans (by rw [hsource]; rfl)
    | tickTimers => cases τ <;> rfl
    | press | release | setKey => rfl

/-- Ticks alone answer whether the machine beeps. -/
theorem beep?_deed (m : Machine) (dice : Dice) (o : Operation) :
    (m.deed dice o).beep? = if o.isTick then some (m.sound == 1) else none := by
  cases o with
  | execute i =>
    simp only [deed, perform, Deed.beep?]
    cases (m.execute dice.top i).result <;> rfl
  | fetch =>
    simp only [deed, perform, Deed.beep?]
    cases m.fetch.result <;> rfl
  | request r =>
    cases r with
    | load program =>
      simp only [deed, perform, serve, Deed.beep?]
      cases (m.load program).result <;> rfl
    | restore s =>
      simp only [deed, perform, serve, Deed.beep?]
      cases (m.restore s).result <;> rfl
    | step =>
      simp only [deed, perform, serve, Deed.beep?]
      cases (m.step dice.top).result <;> rfl
    | reset | tickTimers | press | release | setKey => rfl

/-- Whether a machine has a beep to come. -/
def armed (m : Machine) : Bool := m.sound != 0

theorem eq_setSound_of_timerSource? {x : Register} (h : i.timerSource? .sound = some x) :
    i = .setSound x := by
  cases i with
  | setSound y =>
    cases h
    rfl
  | _ => cases h

/-- When the sound timer is set and a beep is to come, it was set to something. -/
theorem arms_of_sets (h : (m.deed dice o).sets .sound = true)
    (harmed : (m.perform dice o).machine.armed = true) : (m.deed dice o).arms = true := by
  cases o with
  | execute i =>
    obtain ⟨x, hx⟩ := Option.isSome_iff_exists.1 h
    obtain rfl := eq_setSound_of_timerSource? hx
    exact harmed
  | fetch => cases h
  | request r =>
    cases r with
    | load program =>
      have hok : (m.load program).result.isOk = true := (isOk_map _ _).symm.trans h
      have harmed' : ((m.load program).machine.sound != 0) = true := harmed
      rw [load_sound hok] at harmed'
      cases harmed'
    | reset => cases harmed
    | restore s =>
      have hok : (m.restore s).result.isOk = true := (isOk_map _ _).symm.trans h
      have harmed' : ((m.restore s).machine.sound != 0) = true := harmed
      rw [restore_sound hok] at harmed'
      exact Bool.and_eq_true_iff.2 ⟨h, harmed'⟩
    | step =>
      obtain ⟨x, hx⟩ := Option.isSome_iff_exists.1 h
      obtain ⟨i, hi, hsource⟩ := Option.bind_eq_some_iff.1 hx
      obtain rfl := eq_setSound_of_timerSource? hsource
      have hexecuted : m.executed? = some (.setSound x) := hi
      have hsound : (m.step dice.top).machine.sound = m.register x := by
        have htimer := m.timer_step dice.top .sound
        rw [hexecuted] at htimer
        exact htimer
      have harmed' : ((m.step dice.top).machine.sound != 0) = true := harmed
      rw [hsound] at harmed'
      simp only [deed, Deed.arms, Operation.executed?, hexecuted]
      exact harmed'
    | tickTimers | press | release | setKey => cases h

/-- The tick that beeps is the last one before zero. -/
theorem beep_add_countDown_le (timer : UInt8) :
    (timer == 1).toNat + (countDown timer != 0).toNat ≤ (timer != 0).toNat := by
  by_cases hzero : timer = 0
  · subst hzero
    decide
  · by_cases hone : timer = 1
    · subst hone
      decide
    · have hbeep : (timer == 1) = false := beq_false_of_ne hone
      have harmed : (timer != 0) = true := bne_iff_ne.2 hzero
      rw [hbeep, harmed, Bool.toNat_false, Nat.zero_add]
      exact Bool.toNat_le _

/-- A beep uses up what the sound timer was set to before. -/
theorem beep_add_armed_le (m : Machine) (dice : Dice) (o : Operation) :
    ((m.deed dice o).beep? == some true).toNat + (m.perform dice o).machine.armed.toNat ≤
      m.armed.toNat + (m.deed dice o).arms.toNat := by
  rw [beep?_deed]
  cases htick : o.isTick with
  | true =>
    have hkept : (m.deed dice o).sets .sound = false := by
      cases o with
      | request r =>
        cases r with
        | tickTimers => rfl
        | _ => cases htick
      | _ => cases htick
    have hsound : (m.perform dice o).machine.sound = _ := timer_perform hkept
    have hbeep : (some (m.sound == 1) == some true) = (m.sound == 1) := by
      cases m.sound == 1 <;> rfl
    rw [htick, if_pos rfl] at hsound
    rw [if_pos rfl, hbeep, armed, hsound]
    exact Nat.le_trans (beep_add_countDown_le m.sound) (Nat.le_add_right _ _)
  | false =>
    have hsilent : ((none : Option Bool) == some true).toNat = 0 := rfl
    rw [if_neg Bool.false_ne_true, hsilent, Nat.zero_add]
    cases hsets : (m.deed dice o).sets .sound with
    | true =>
      cases harmed : (m.perform dice o).machine.armed with
      | false => exact Nat.zero_le _
      | true =>
        rw [arms_of_sets hsets harmed]
        exact Nat.le_add_left _ _
    | false =>
      have hsound : (m.perform dice o).machine.sound = _ := timer_perform hsets
      rw [htick, if_neg Bool.false_ne_true] at hsound
      rw [armed, hsound]
      exact Nat.le_add_right _ _

/-! ## Rows of operations -/

variable {os : List Operation}

theorem beeps_deeds_cons (m : Machine) (dice : Dice) (o : Operation) (os : List Operation) :
    Deed.beeps (m.deeds dice (o :: os)) =
      if o.isTick then
        (m.sound == 1) :: Deed.beeps ((m.perform dice o).machine.deeds (m.perform dice o).dice os)
      else Deed.beeps ((m.perform dice o).machine.deeds (m.perform dice o).dice os) := by
  rw [deeds, Deed.beeps, List.filterMap_cons, beep?_deed]
  cases o.isTick <;> rfl

/-- Every tick answers once. -/
theorem length_beeps (m : Machine) (dice : Dice) (os : List Operation) :
    (Deed.beeps (m.deeds dice os)).length = os.countP Operation.isTick := by
  induction os generalizing m dice with
  | nil => rfl
  | cons o os ih =>
    rw [beeps_deeds_cons, List.countP_cons]
    cases o.isTick with
    | true => exact congrArg Nat.succ (ih _ _)
    | false => exact ih _ _

theorem countP_deeds_cons (p : Deed → Bool) (d : Deed) (ds : List Deed) :
    (d :: ds).countP p = (p d).toNat + ds.countP p := by
  rw [List.countP_cons, Nat.add_comm]
  cases p d <;> rfl

/-- There are no more beeps, the one to come included, than times the sound timer was
    set to something. -/
theorem beeps_add_armed_le (m : Machine) (dice : Dice) (os : List Operation) :
    (Deed.beeps (m.deeds dice os)).count true + (m.performAll dice os).armed.toNat ≤
      m.armed.toNat + (m.deeds dice os).countP Deed.arms := by
  rw [Deed.beeps, List.count_filterMap]
  induction os generalizing m dice with
  | nil => exact Nat.le_of_eq (Nat.zero_add _)
  | cons o os ih =>
    have hone := beep_add_armed_le m dice o
    have hrest := ih (m.perform dice o).machine (m.perform dice o).dice
    rw [deeds, performAll, countP_deeds_cons, countP_deeds_cons]
    omega

/-- A timer that is never set goes down by one with every tick. -/
theorem timer_performAll (h : ∀ d ∈ m.deeds dice os, d.sets τ = false) :
    ((m.performAll dice os).timer τ).toNat =
      (m.timer τ).toNat - os.countP Operation.isTick := by
  induction os generalizing m dice with
  | nil => rfl
  | cons o os ih =>
    obtain ⟨hone, hrest⟩ := List.forall_mem_cons.1 h
    rw [performAll, ih hrest, timer_perform hone]
    cases htick : o.isTick with
    | true =>
      rw [List.countP_cons_of_pos htick, if_pos rfl, toNat_countDown]
      omega
    | false =>
      rw [List.countP_cons_of_neg (by rw [htick]; exact Bool.false_ne_true),
        if_neg Bool.false_ne_true]

/-- Of the ticks of a sound timer that is never set, the one that takes its last one
    beeps. -/
theorem getElem?_beeps (h : ∀ d ∈ m.deeds dice os, d.sets .sound = false) {k : Nat}
    (hk : k < os.countP Operation.isTick) :
    (Deed.beeps (m.deeds dice os))[k]? = some (decide (k + 1 = m.sound.toNat)) := by
  induction os generalizing m dice k with
  | nil => cases hk
  | cons o os ih =>
    obtain ⟨hone, hrest⟩ := List.forall_mem_cons.1 h
    have hsound : (m.perform dice o).machine.sound = _ := timer_perform hone
    rw [beeps_deeds_cons]
    cases htick : o.isTick with
    | true =>
      rw [List.countP_cons_of_pos htick] at hk
      rw [htick, if_pos rfl] at hsound
      rw [if_pos rfl]
      cases k with
      | zero =>
        have hbeep : (m.sound == 1) = decide (1 = m.sound.toNat) := by
          rw [Bool.eq_iff_iff, beq_iff_eq, decide_eq_true_iff, ← UInt8.toNat_inj]
          exact eq_comm
        rw [List.getElem?_cons_zero, hbeep]
      | succ k =>
        rw [List.getElem?_cons_succ, ih hrest (Nat.lt_of_succ_lt_succ hk), hsound,
          toNat_countDown]
        have hlater (s : Nat) : k + 1 = s - 1 ↔ k + 1 + 1 = s := by omega
        exact congrArg some (decide_eq_decide.2 (hlater m.sound.toNat))
    | false =>
      rw [List.countP_cons_of_neg (by rw [htick]; exact Bool.false_ne_true)] at hk
      rw [htick, if_neg Bool.false_ne_true] at hsound
      rw [if_neg Bool.false_ne_true, ih hrest hk, hsound]
      rfl

/-- Over any row of operations the machine beeps at most once for each time that its
    sound timer is set to something, the countdown that goes on already included. While
    nothing sets the sound timer, the tick that takes the last one off it beeps and no
    other one does; and the delay timer, while nothing sets it, goes down by one with
    each tick until it is zero. -/
theorem beeps_once_per_countdown (m : Machine) (dice : Dice) (os : List Operation) :
    let deeds := m.deeds dice os
    let beeps := Deed.beeps deeds
    let ticks := os.countP Operation.isTick
    beeps.length = ticks ∧
      beeps.count true ≤ (if m.sound = 0 then 0 else 1) + deeds.countP Deed.arms ∧
      ((∀ d ∈ deeds, d.sets .sound = false) →
        ∀ k < ticks, beeps[k]? = some (decide (k + 1 = m.sound.toNat))) ∧
      ((∀ d ∈ deeds, d.sets .delay = false) →
        (m.performAll dice os).delay.toNat = m.delay.toNat - ticks) := by
  intro deeds beeps ticks
  have hbeeps : beeps.count true ≤ m.armed.toNat + deeds.countP Deed.arms :=
    Nat.le_trans (Nat.le_add_right _ _) (beeps_add_armed_le m dice os)
  have harmed : m.armed.toNat = if m.sound = 0 then 0 else 1 := by
    by_cases hzero : m.sound = 0
    · rw [if_pos hzero, armed, hzero]
      rfl
    · rw [if_neg hzero, armed, bne_iff_ne.2 hzero]
      rfl
  refine ⟨length_beeps m dice os, ?_, ?_, ?_⟩
  · rw [← harmed]
    exact hbeeps
  · intro hunset k hk
    exact getElem?_beeps hunset hk
  · intro hunset
    exact timer_performAll hunset

/-- A machine that is counting down. -/
def humming : Machine := { start .spill with sound := 2, delay := 5 }

/-- Of three ticks the second one beeps, with a key pressed and an instruction executed in
    between. -/
theorem humming_beeps_once :
    let os : List Operation := [.request .tickTimers, .request (.press 'q'), .execute (.set 0 7),
      .request .tickTimers, .request .tickTimers]
    (∀ d ∈ humming.deeds (.ofSeed 0) os, d.sets .sound = false) ∧
      (Deed.beeps (humming.deeds (.ofSeed 0) os))[1]? = some true ∧
      (humming.performAll (.ofSeed 0) os).delay.toNat = 2 := by
  intro os
  obtain ⟨-, -, hsound, hdelay⟩ := beeps_once_per_countdown humming (.ofSeed 0) os
  have hunset : ∀ d ∈ humming.deeds (.ofSeed 0) os, ∀ τ, d.sets τ = false := by
    intro d hd τ
    simp only [os, deeds, List.mem_cons, List.not_mem_nil, or_false] at hd
    obtain rfl | rfl | rfl | rfl | rfl := hd <;> cases τ <;> rfl
  refine ⟨fun d hd => hunset d hd .sound, ?_, ?_⟩
  · exact hsound (fun d hd => hunset d hd .sound) 1 (by decide)
  · exact hdelay fun d hd => hunset d hd .delay

end Machine

end Chip8

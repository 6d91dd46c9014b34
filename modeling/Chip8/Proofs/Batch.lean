-- SUMMARY: A frame that ends its batch when the machine waits comes to the same as all its steps.
import Chip8.Proofs.Machine.Faults
import Chip8.Proofs.Ticker

/-! # Frames without an early end

A batch ends early when the machine waits. With no key down a machine that waits
is as it was after every further step, so a frame comes to what it would be if
all its steps were taken. -/

namespace Chip8

theorem Keypad.lowest?_released : Keypad.released.lowest? = none := by decide

namespace Machine

variable {m : Machine} {byte : UInt8}

/-- Takes `count` steps, whether or not the machine waits, until one fails. -/
def runThrough (count : Nat) (dice : Dice) (m : Machine) (said : Array Notice) : Run :=
  match count with
  | 0 => ⟨none, m, dice, said⟩
  | count + 1 =>
    let left := if m.rolls then dice.rest else dice
    let outcome := m.step dice.top
    let said := said ++ outcome.notices
    match outcome.result with
    | .error fault => ⟨some fault, outcome.machine, left, said⟩
    | .ok _ => runThrough count left outcome.machine said

/-- A machine that waits for a key while none is down. -/
structure Idle (m : Machine) : Prop where
  awaiting : ∃ x, m.mode = .awaiting x
  released : m.keypad.lowest? = none

/-- A step changes nothing about an idle machine. -/
theorem Idle.step_eq (hm : m.Idle) (byte : UInt8) : m.step byte = ⟨.ok .wait, m, []⟩ := by
  obtain ⟨x, hmode⟩ := hm.awaiting
  rw [step_of_awaiting hmode]
  simp [awaitKey, hm.released]

theorem Idle.rolls_eq (hm : m.Idle) : m.rolls = false := by
  obtain ⟨x, hmode⟩ := hm.awaiting
  simp [rolls, hmode]

/-- Only an instruction that looks for a key, and finds none, leaves the machine
    waiting. -/
theorem progressOf_eq_wait {i : Instruction} (h : m.progressOf i = .wait) :
    ∃ x, i = .awaitKey x ∧ m.keypad.lowest? = none := by
  cases i with
  | awaitKey x =>
    cases hkey : m.keypad.lowest? with
    | none => exact ⟨x, rfl, rfl⟩
    | some key =>
      rw [progressOf, executeAwaitKey_of_some x hkey] at h
      cases h
  | _ => cases h

/-- A step that waits leaves the machine idle. -/
theorem idle_of_wait (h : (m.step byte).result = .ok .wait) : (m.step byte).machine.Idle := by
  cases hmode : m.mode with
  | awaiting x =>
    rw [step_of_awaiting hmode] at h ⊢
    cases hkey : m.keypad.lowest? with
    | none => simpa [awaitKey, hkey] using (⟨⟨x, hmode⟩, hkey⟩ : m.Idle)
    | some key => simp [awaitKey, hkey] at h
  | running =>
    cases hword : m.nextWord with
    | error fault =>
      rw [step_of_unfetched hmode hword] at h
      cases h
    | ok word =>
      rw [step_of_fetched hmode hword] at h ⊢
      cases heffect : m.pastWord.effect byte (Instruction.decode word) with
      | error fault =>
        rw [execute_of_error heffect] at h
        cases h
      | ok after =>
        rw [execute_of_ok heffect] at h ⊢
        obtain ⟨x, hi, hkey⟩ := progressOf_eq_wait (Except.ok.inj h)
        have hafter := effect_of_ok heffect
        rw [hi] at hafter
        refine ⟨⟨x, ?_⟩, ?_⟩
        · simp [hafter.mode, modeAfter, hkey]
        · rw [hafter.keypad, hkey]

/-- Further steps of an idle machine come to nothing. -/
theorem Idle.runThrough_eq (hm : m.Idle) (count : Nat) (dice : Dice) (said : Array Notice) :
    m.runThrough count dice said = ⟨none, m, dice, said⟩ := by
  induction count with
  | zero => rfl
  | succ count ih => simp [runThrough, hm.step_eq, hm.rolls_eq, ih]

/-- A batch that ends when the machine waits comes to the same as all its steps. -/
theorem runBatch_eq_runThrough (m : Machine) (count : Nat) (dice : Dice) (said : Array Notice) :
    m.runBatch count dice said = m.runThrough count dice said := by
  induction count generalizing m dice said with
  | zero => rfl
  | succ count ih =>
    simp only [runBatch, runThrough]
    cases hresult : (m.step dice.top).result with
    | error fault => rfl
    | ok progress =>
      cases progress with
      | proceed => exact ih _ _ _
      | wait => exact ((idle_of_wait hresult).runThrough_eq count _ _).symm

end Machine

namespace Ticker

/-- A ticker that was stopped shows its display again and stays as it is. Any other
    one takes all steps of its batch until one fails, whether or not the machine
    waits. If one fails, its fault is the answer and the machine is left as that
    step left it; otherwise the timers tick once, and the answer is what the machine
    shows then and whether it beeped. Of the ticker only the machine changes. -/
theorem tick_takes_all_steps (t : Ticker) (dice : Dice) :
    let run := t.machine.runThrough t.batch dice #[]
    (t.stopped = true →
        t.tick dice = { result := .ok ⟨t.machine.display, false⟩, ticker := t, dice := dice }) ∧
      (t.stopped = false →
        (∀ fault, run.fault = some fault →
          (t.tick dice).result = .error fault ∧ (t.tick dice).ticker.machine = run.machine) ∧
        (run.fault = none →
          (t.tick dice).result =
              .ok ⟨run.machine.tickTimers.2.display, run.machine.tickTimers.1⟩ ∧
            (t.tick dice).ticker.machine = run.machine.tickTimers.2) ∧
        (t.tick dice).dice = run.dice ∧ (t.tick dice).notices = run.notices) ∧
      (t.tick dice).ticker.stopped = t.stopped ∧ (t.tick dice).ticker.batch = t.batch ∧
        (t.tick dice).ticker.frameNanos = t.frameNanos := by
  intro run
  have hrun : t.machine.runBatch t.batch dice #[] = run := t.machine.runBatch_eq_runThrough _ _ _
  refine ⟨?_, ?_, ?_⟩
  · intro hstopped
    simp [tick, hstopped, frame]
  · intro hstopped
    simp only [tick, hstopped, Bool.false_eq_true, if_false, hrun]
    cases hfault : run.fault with
    | none => simp [frame]
    | some fault => simp
  · rw [t.tick_machine dice]
    exact ⟨rfl, rfl, rfl⟩

/-- A ticker in front of a word that waits for a key, with a beep to come. -/
def parking : Ticker where
  machine :=
    { Machine.start .spill with
      memory := ⟨Vector.ofFn fun a => if a = 0x200 then 0xF4 else if a = 0x201 then 0x0A else 0⟩
      sound := 1 }
  batch := 3
  frameNanos := 16666667

/-- The machine of this ticker on the word that waits. -/
def parked : Machine := { parking.machine with mode := .awaiting 4 }

theorem parking_fetches : parking.machine.Fetches (.awaitKey 4) where
  running := rfl
  inside := by decide
  decoded := by
    simp only [Machine.wordAt, parking, Vector.getElem_ofFn]
    decide

theorem parking_step (byte : UInt8) : parking.machine.step byte = ⟨.ok .wait, parked, []⟩ := by
  obtain ⟨hmode, word, hword, hi⟩ := Machine.fetches_iff.1 parking_fetches
  have hkey : parking.machine.pastWord.keypad.lowest? = none := Keypad.lowest?_released
  have heffect : parking.machine.pastWord.effect byte (.awaitKey 4) = .ok parked := by
    rw [Machine.effect, Machine.executeAwaitKey_of_none 4 hkey]
    rfl
  rw [Machine.step_of_fetched hmode hword, hi, Machine.execute_of_ok heffect]
  simp [Machine.progressOf, Machine.noticesOf, Machine.executeAwaitKey_of_none 4 hkey]

/-- One step parks the machine, and the two others change nothing. -/
theorem parking_run (dice : Dice) :
    parking.machine.runThrough 3 dice #[] =
      ⟨none, parked, if parking.machine.rolls then dice.rest else dice, #[]⟩ := by
  have hidle : parked.Idle := ⟨⟨4, rfl⟩, Keypad.lowest?_released⟩
  rw [Machine.runThrough]
  simp [parking_step, hidle.runThrough_eq]

/-- A frame on the word that waits: the timers tick, and the last tick beeps. -/
theorem tick_parking :
    parking.stopped = false ∧ (parking.machine.runThrough 3 (.ofSeed 0) #[]).fault = none ∧
      (parking.tick (.ofSeed 0)).result = .ok ⟨.blank, true⟩ ∧
      (parking.tick (.ofSeed 0)).ticker.machine = { parked with sound := 0 } := by
  have htimers : parked.tickTimers = (true, { parked with sound := 0 }) := by
    have hsound : parked.sound = 1 := rfl
    have hdelay : parked.delay = 0 := rfl
    simp [Machine.tickTimers, Machine.countDown, hsound, hdelay]
  have hbatch : parking.batch = 3 := rfl
  obtain ⟨-, hgoes, -⟩ := parking.tick_takes_all_steps (.ofSeed 0)
  obtain ⟨-, hdone, -⟩ := hgoes rfl
  rw [hbatch, parking_run, htimers] at hdone
  obtain ⟨hresult, hmachine⟩ := hdone rfl
  refine ⟨rfl, ?_, hresult, hmachine⟩
  rw [parking_run]

end Ticker

end Chip8

-- SUMMARY: What frames keep: keys, and that the machine can be saved.
import Chip8.Proofs.Savable
import Chip8.Ticker

/-! # Frames

A frame is a batch of steps and a tick of the timers, so it keeps what steps
keep. -/

namespace Chip8

namespace Machine

variable {m : Machine}

/-- Batches of steps do not touch keys. -/
theorem runBatch_keypad (m : Machine) (count : Nat) (dice : Dice) (said : Array Notice) :
    (m.runBatch count dice said).machine.keypad = m.keypad := by
  induction count generalizing m dice said with
  | zero => rfl
  | succ count ih =>
    simp only [runBatch]
    split
    · exact m.step_keypad dice.top
    · exact m.step_keypad dice.top
    · exact (ih _ _ _).trans (m.step_keypad dice.top)

theorem Savable.runBatch (hm : m.Savable) (count : Nat) (dice : Dice) (said : Array Notice) :
    (m.runBatch count dice said).machine.Savable := by
  induction count generalizing m dice said with
  | zero => exact hm
  | succ count ih =>
    simp only [Machine.runBatch]
    split
    · exact hm.step dice.top
    · exact hm.step dice.top
    · exact ih (hm.step dice.top) _ _

theorem Savable.withKeypad (hm : m.Savable) (keypad : Keypad) :
    { m with keypad := keypad }.Savable := ⟨hm.calls, hm.pixels⟩

end Machine

namespace Ticker

variable {t : Ticker}

theorem tick_machine (t : Ticker) (dice : Dice) :
    (t.tick dice).ticker = { t with machine := (t.tick dice).ticker.machine } := by
  simp only [tick]
  split
  · rfl
  · split <;> rfl

/-- Frames do not touch keys. -/
theorem tick_keypad (t : Ticker) (dice : Dice) :
    (t.tick dice).ticker.machine.keypad = t.machine.keypad := by
  have hbatch := t.machine.runBatch_keypad t.batch dice #[]
  simp only [tick]
  split
  · rfl
  · split <;> exact hbatch

theorem tick_savable (ht : t.machine.Savable) (dice : Dice) :
    (t.tick dice).ticker.machine.Savable := by
  have hbatch := ht.runBatch t.batch dice #[]
  simp only [tick]
  split
  · exact ht
  · split
    · exact hbatch
    · exact ⟨hbatch.calls, hbatch.pixels⟩

end Ticker

end Chip8

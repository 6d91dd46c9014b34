-- SUMMARY: A machine that was saved and restored cannot be told from one that went on.
import Chip8.Proofs.Savable

/-! # Going on from a saved state

A saved state leaves out the mode, so a machine that waits for a key comes back
running. It stands on the word that made it wait, though, and that word makes it
wait again. So two machines that differ in their modes alone give the same
answers to all requests, as long as each of them stands where it waits. -/

namespace Chip8

/-- The machine with its mode forgotten. -/
def Machine.resumed (m : Machine) : Machine := { m with mode := .running }

/-- What came of an operation, with the mode forgotten. -/
def Turn.resumed (t : Turn) : Turn := { t with machine := t.machine.resumed }

/-- The same answer, and machines that differ in their modes alone. -/
structure Outcome.Alike {α : Type} (o o' : Outcome α) : Prop where
  result : o.result = o'.result
  machine : o.machine.resumed = o'.machine.resumed

namespace Machine

variable {m n : Machine}

theorem resumed_of_running (h : m.mode = .running) : m.resumed = m := by
  rw [resumed, ← h]

theorem resumed_resumed (m : Machine) : m.resumed.resumed = m.resumed := rfl

theorem saveState_resumed (m : Machine) : m.resumed.saveState = m.saveState := rfl

/-! ## Waiting on the word that waits -/

/-- A machine that waits for a key stands on a word that waits for it. -/
def Parked (m : Machine) : Prop :=
  ∀ x, m.mode = .awaiting x →
    ∃ word, m.nextWord = .ok word ∧ Instruction.decode word = .awaitKey x

theorem parked_of_running (h : m.mode = .running) : m.Parked := by
  intro x hx
  rw [h] at hx
  cases hx

/-- The word that a machine waits on lies inside of memory. -/
theorem Parked.pc_le {x : Register} (hm : m.Parked) (hmode : m.mode = .awaiting x) :
    m.pc.toNat ≤ 0xFFE := by
  obtain ⟨word, hword, -⟩ := hm x hmode
  exact Nat.le_of_lt_succ (Nat.lt_of_succ_lt_succ (inside_of_nextWord hword))

/-- Only an instruction that waits for a key leaves a running machine waiting,
    and then it changes nothing else but to go back to its word. -/
theorem effect_eq_awaiting {after : Machine} {byte : UInt8} {i : Instruction} {x : Register}
    (hmode : m.mode = .running) (h : m.effect byte i = .ok after)
    (hx : after.mode = .awaiting x) :
    i = .awaitKey x ∧ after = { m with pc := m.pc - 2, mode := .awaiting x } := by
  rw [(effect_of_ok h).mode] at hx
  cases i with
  | awaitKey y =>
    cases hkey : m.keypad.lowest? with
    | some key => simp [modeAfter, hkey, hmode] at hx
    | none =>
      simp only [modeAfter, hkey, Option.isNone_none, if_true, Mode.awaiting.injEq] at hx
      simp only [effect, executeAwaitKey_of_none y hkey, Except.ok.injEq] at h
      subst hx h
      exact ⟨rfl, rfl⟩
  | _ =>
    rw [modeAfter, hmode] at hx
    · cases hx
    all_goals exact fun _ => Instruction.noConfusion

/-- Back from behind a word, a machine stands on that word again. -/
theorem nextWord_back (m : Machine) (mode : Mode) :
    { m.pastWord with pc := m.pastWord.pc - 2, mode := mode }.nextWord = m.nextWord := by
  have hpc : m.pastWord.pc - 2 = m.pc := by simp [pastWord]
  rw [hpc]
  rfl

theorem Parked.awaitKey (hm : m.Parked) (x : Register) : (m.awaitKey x).2.Parked := by
  unfold Machine.awaitKey
  split
  · exact parked_of_running rfl
  · exact hm

theorem Parked.step (hm : m.Parked) (byte : UInt8) : (m.step byte).machine.Parked := by
  cases hmode : m.mode with
  | awaiting x =>
    rw [step_of_awaiting hmode]
    exact hm.awaitKey x
  | running =>
    cases hword : m.nextWord with
    | error fault =>
      rw [step_of_unfetched hmode hword]
      exact hm
    | ok word =>
      rw [step_of_fetched hmode hword]
      have hpast : m.pastWord.mode = .running := hmode
      cases heffect : m.pastWord.effect byte (Instruction.decode word) with
      | error fault =>
        rw [execute_of_error heffect]
        exact parked_of_running hpast
      | ok after =>
        rw [execute_of_ok heffect]
        intro x hx
        -- the word that was executed is the one that the machine is back on
        obtain ⟨hi, rfl⟩ := effect_eq_awaiting hpast heffect hx
        exact ⟨word, (nextWord_back m _).trans hword, hi⟩

theorem Parked.load (hm : m.Parked) (program : List UInt8) :
    (m.load program).machine.Parked := by
  unfold Machine.load
  split
  · exact hm
  · exact parked_of_running rfl

theorem Parked.restore (hm : m.Parked) (s : SaveState) : (m.restore s).machine.Parked := by
  unfold Machine.restore
  split
  · exact hm
  · exact parked_of_running rfl

theorem Parked.serve (hm : m.Parked) (dice : Dice) (r : Request) :
    (m.serve dice r).machine.Parked := by
  cases r with
  | load program => exact hm.load program
  | reset => exact parked_of_running rfl
  | restore state => exact hm.restore state
  | step => exact hm.step dice.top
  | tickTimers | press | release | setKey => exact hm

theorem Parked.serveAll (hm : m.Parked) (dice : Dice) (rs : List Request) :
    (m.serveAll dice rs).Parked := by
  induction rs generalizing m dice with
  | nil => exact hm
  | cons r rs ih => exact ih (hm.serve dice r) _

/-! ## Answers without the mode -/

/-- Executing the word that waits looks for a key as waiting does. -/
theorem executeAwaitKey_pastWord (m : Machine) (x : Register) :
    (m.resumed.pastWord.executeAwaitKey x).1 = (m.awaitKey x).1 ∧
      (m.resumed.pastWord.executeAwaitKey x).2.resumed = (m.awaitKey x).2.resumed := by
  have hkeypad : m.resumed.pastWord.keypad = m.keypad := rfl
  cases hkey : m.keypad.lowest? with
  | some key =>
    rw [executeAwaitKey_of_some x (hkeypad ▸ hkey)]
    simp [awaitKey, hkey, pastWord, setRegister, resumed]
  | none =>
    rw [executeAwaitKey_of_none x (hkeypad ▸ hkey)]
    simp [awaitKey, hkey, pastWord, resumed]

/-- Running the word that waits comes to the same as waiting. -/
theorem step_resumed (hm : m.Parked) (byte : UInt8) :
    (m.resumed.step byte).Alike (m.step byte) := by
  cases hmode : m.mode with
  | running =>
    rw [resumed_of_running hmode]
    exact ⟨rfl, rfl⟩
  | awaiting x =>
    obtain ⟨word, hword, hi⟩ := hm x hmode
    have hrunning : m.resumed.mode = .running := rfl
    have hnext : m.resumed.nextWord = .ok word := hword
    obtain ⟨hprogress, hmachine⟩ := m.executeAwaitKey_pastWord x
    rw [step_of_fetched hrunning hnext, hi, step_of_awaiting hmode]
    exact ⟨congrArg Except.ok hprogress, hmachine⟩

theorem rolls_resumed (hm : m.Parked) : m.resumed.rolls = m.rolls := by
  cases hmode : m.mode with
  | running => rw [resumed_of_running hmode]
  | awaiting x =>
    obtain ⟨word, hword, hi⟩ := hm x hmode
    have hrunning : m.resumed.mode = .running := rfl
    have hnext : m.resumed.nextWord = .ok word := hword
    simp [rolls, hmode, hrunning, hnext, hi]

theorem load_resumed (m : Machine) (program : List UInt8) :
    (m.resumed.load program).Alike (m.load program) := by
  have hreset : m.resumed.reset = m.reset := rfl
  simp only [load, hreset]
  split <;> exact ⟨rfl, rfl⟩

theorem restore_resumed (m : Machine) (s : SaveState) :
    (m.resumed.restore s).Alike (m.restore s) := by
  simp only [restore]
  split <;> exact ⟨rfl, rfl⟩

theorem serve_resumed (hm : m.Parked) (dice : Dice) (r : Request) :
    (m.resumed.serve dice r).resumed = (m.serve dice r).resumed := by
  cases r with
  | load program =>
    have halike := m.load_resumed program
    simp only [serve, Turn.resumed, halike.result, halike.machine]
  | restore state =>
    have halike := m.restore_resumed state
    simp only [serve, Turn.resumed, halike.result, halike.machine]
  | step =>
    have halike := step_resumed hm dice.top
    simp only [serve, Turn.resumed, halike.result, halike.machine, rolls_resumed hm]
  | reset | tickTimers | press | release | setKey => rfl

/-! ## Rows of requests -/

/-- Parked machines that differ in their modes alone give the same answers and
    go through the same states. -/
theorem transcript_eq_of_resumed_eq (hm : m.Parked) (hn : n.Parked)
    (h : m.resumed = n.resumed) (dice : Dice) (rs : List Request) :
    m.transcript dice rs = n.transcript dice rs := by
  -- after a request the modes may still differ, so both machines vary
  induction rs generalizing m n dice with
  | nil => rfl
  | cons r rs ih =>
    have hserve : (m.serve dice r).resumed = (n.serve dice r).resumed := by
      rw [← serve_resumed hm, ← serve_resumed hn, h]
    simp only [Turn.resumed, Turn.mk.injEq] at hserve
    obtain ⟨hresult, hmachine, hdice⟩ := hserve
    have hstate : (m.serve dice r).machine.saveState = (n.serve dice r).machine.saveState := by
      rw [← saveState_resumed, hmachine, saveState_resumed]
    simp only [transcript, hresult, hstate, hdice]
    rw [ih (hm.serve dice r) (hn.serve dice r) hmachine]

/-- The state of a machine that requests lead to is read back from its text, and
    every machine with the same treatment of the edge takes it over. That machine
    runs, even where the first one waits for a key. Whatever is asked of the two
    from there on, they give the same answers and go through the same states, if
    their programs draw the same bytes. -/
theorem transcript_restore_saveState (other : Machine) (dice : Dice) (history : List Request) :
    let m := (start other.edge).serveAll dice history
    ∃ s, SaveState.ofJson m.saveState.toJson = .ok s ∧
      (other.restore s).result = .ok () ∧
      (other.restore s).machine.mode = .running ∧
      (other.restore s).machine.saveState = m.saveState ∧
      ∀ (draws : Dice) (future : List Request),
        (other.restore s).machine.transcript draws future = m.transcript draws future := by
  intro m
  have hm : m.Parked := (parked_of_running rfl : (start other.edge).Parked).serveAll dice history
  have hops : m = (start other.edge).performAll dice (history.map .request) :=
    serveAll_eq_performAll _ _ _
  have hproper : m.saveState.Proper := by
    rw [hops]
    exact ((savable_start other.edge).performAll dice _).proper
  have hedge : m.edge = other.edge := by
    rw [hops, performAll_edge, start_edge]
  refine ⟨m.saveState, SaveState.ofJson_toJson hproper, ?_⟩
  rw [other.restore_of_proper hproper]
  -- what `other` held before is gone, but for its edge, which is that of `m`
  have hresumed : other.withState m.saveState = m.resumed := by
    simp only [withState, saveState, resumed, ← hedge]
  refine ⟨rfl, rfl, rfl, ?_⟩
  intro draws future
  rw [hresumed]
  exact transcript_eq_of_resumed_eq (parked_of_running rfl) hm m.resumed_resumed draws future

end Machine

end Chip8

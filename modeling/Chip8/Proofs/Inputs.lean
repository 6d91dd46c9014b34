-- SUMMARY: Keys and timers reach a program only through the instructions that ask for them.
import Chip8.Proofs.Machine.Periphery
import Chip8.Proofs.Requests

/-! # Programs that do not ask

A program learns of keys and of the delay timer by a few instructions. As long as
it executes none of them, it runs the same whatever keys are pressed and however
often the timers tick between its steps. -/

namespace Chip8

/-- Whether an instruction asks for a key or for the delay timer. -/
def Instruction.asks : Instruction → Bool
  | .skipPressed _ | .skipReleased _ | .awaitKey _ | .readDelay _ => true
  | _ => false

def Request.isStep : Request → Bool
  | .step => true
  | _ => false

/-- How many of some requests are steps. -/
def Request.steps (rs : List Request) : Nat := rs.countP isStep

/-- A machine is not about to execute an instruction that asks. -/
def Machine.Silent (m : Machine) : Prop := ∀ i, m.Fetches i → i.asks = false

/-- Two programs that run, both at the same place. -/
structure Turn.Abreast (t t' : Turn) : Prop where
  running : t.machine.mode = .running
  machine : t.machine.SameInside t'.machine
  dice : t'.dice = t.dice

/-! ## Counting steps -/

namespace Request

theorem eq_step_of_isStep {r : Request} (h : r.isStep = true) : r = .step := by
  cases r with
  | step => rfl
  | _ => cases h

theorem steps_cons_of_isStep {r : Request} (h : r.isStep = true) (rs : List Request) :
    steps (r :: rs) = steps rs + 1 :=
  List.countP_cons_of_pos h

theorem steps_cons_of_not_isStep {r : Request} (h : r.isStep = false) (rs : List Request) :
    steps (r :: rs) = steps rs :=
  List.countP_cons_of_neg (by rw [h]; exact Bool.false_ne_true)

theorem steps_append (rs qs : List Request) : steps (rs ++ qs) = steps rs + steps qs :=
  List.countP_append

/-- The step before which there are `k` steps. -/
theorem exists_step {rs : List Request} {k : Nat} (h : k < steps rs) :
    ∃ front rest, rs = front ++ .step :: rest ∧ steps front = k := by
  induction rs generalizing k with
  | nil => cases h
  | cons r rs ih =>
    cases hr : r.isStep with
    | false =>
      rw [steps_cons_of_not_isStep hr] at h
      obtain ⟨front, rest, rfl, hfront⟩ := ih h
      exact ⟨r :: front, rest, rfl, (steps_cons_of_not_isStep hr front).trans hfront⟩
    | true =>
      rw [steps_cons_of_isStep hr] at h
      cases k with
      | zero => exact ⟨[], rs, by rw [eq_step_of_isStep hr]; rfl, rfl⟩
      | succ k =>
        obtain ⟨front, rest, rfl, hfront⟩ := ih (Nat.lt_of_succ_lt_succ h)
        exact ⟨r :: front, rest, rfl, (steps_cons_of_isStep hr front).trans (by rw [hfront])⟩

theorem steps_lt_of_prefix {rs front : List Request} (h : front ++ [.step] <+: rs) :
    steps front < steps rs := by
  have hle : steps (front ++ [.step]) ≤ steps rs := h.sublist.countP_le
  rw [steps_append] at hle
  exact hle

end Request

namespace Machine

variable {m : Machine} {byte : UInt8} {i : Instruction}

/-! ## One request -/

theorem overlooks_of_not_asks {p : Periphery} (hi : i.asks = false) (hedge : p.edge = m.edge) :
    m.Overlooks p i := by
  cases i with
  | draw x y n => exact .inl hedge
  | skipPressed | skipReleased | awaitKey | readDelay => cases hi
  | _ => trivial

theorem modeAfter_of_not_asks (m : Machine) (hi : i.asks = false) : m.modeAfter i = m.mode := by
  cases i with
  | awaitKey => cases hi
  | _ => rfl

/-- A machine that runs goes on running unless it asks for a key. -/
theorem step_running (hmode : m.mode = .running) (hsilent : m.Silent) (byte : UInt8) :
    (m.step byte).machine.mode = .running := by
  cases hword : m.nextWord with
  | error fault => rw [step_of_unfetched hmode hword, hmode]
  | ok word =>
    have hi := hsilent _ (executed?_eq_some_iff.1 (executed?_of_fetched hmode hword))
    rw [step_of_fetched hmode hword]
    cases heffect : m.pastWord.effect byte (Instruction.decode word) with
    | error fault =>
      rw [execute_of_error heffect]
      exact hmode
    | ok after =>
      rw [execute_of_ok heffect]
      have hafter := (effect_of_ok heffect).mode
      rw [modeAfter_of_not_asks _ hi] at hafter
      exact hafter.trans hmode

/-- Keys and ticks of the timers change nothing inside. -/
theorem serve_sameInside {r : Request} (hr : r.goesOn = true) (hstep : r.isStep = false)
    (m : Machine) (dice : Dice) :
    m.SameInside (m.serve dice r).machine ∧ (m.serve dice r).dice = dice := by
  cases r with
  | load | reset | restore => cases hr
  | step => cases hstep
  | tickTimers | press | release | setKey => exact ⟨⟨rfl, rfl, rfl, rfl, rfl, rfl, rfl, rfl⟩, rfl⟩

theorem SameInside.fetches_iff {n : Machine} (h : m.SameInside n) : n.Fetches i ↔ m.Fetches i := by
  rw [h.eq, Machine.fetches_iff, Machine.fetches_iff]
  exact Iff.rfl

end Machine

namespace Turn

variable {t t' : Turn} {rs qs : List Request}

/-- A step that does not ask comes to the same on both sides. -/
theorem Abreast.step (h : t.Abreast t') (hsilent : t.machine.Silent) :
    (t'.machine.serve t'.dice .step).result = (t.machine.serve t.dice .step).result ∧
      (t.machine.serve t.dice .step).Abreast (t'.machine.serve t'.dice .step) := by
  have hedge : t'.machine.periphery.edge = t.machine.edge := h.machine.edge
  have hoverlooks : ∀ i, t.machine.Fetches i → t.machine.Overlooks t'.machine.periphery i :=
    fun i hi => Machine.overlooks_of_not_asks (hsilent i hi) hedge
  have hstep := Machine.step_withPeriphery (.inl h.running) hoverlooks t.dice.top
  have hrolls : t'.machine.rolls = t.machine.rolls := by
    rw [h.machine.eq]
    rfl
  rw [← h.machine.eq] at hstep
  simp only [Machine.serve, h.dice, hstep, hrolls]
  refine ⟨rfl, Machine.step_running h.running hsilent _, ?_, rfl⟩
  refine Machine.sameInside_withPeriphery _ ?_
  have hkept : (t.machine.peripheryAfterStep t'.machine.periphery).edge = t'.machine.edge :=
    congrArg Periphery.edge
      (Machine.peripheryAfterStep_edge t.machine t'.machine.periphery t'.machine.edge)
  rw [hkept, Machine.step_edge, h.machine.edge]

/-- What is no step leaves the two sides as far as they are. -/
theorem Abreast.wait_left {r : Request} (h : t.Abreast t') (hr : r.goesOn = true)
    (hstep : r.isStep = false) : (t.machine.serve t.dice r).Abreast t' := by
  obtain ⟨hsame, hdice⟩ := Machine.serve_sameInside hr hstep t.machine t.dice
  exact ⟨hsame.mode.trans h.running, hsame.symm.trans h.machine, h.dice.trans hdice.symm⟩

theorem Abreast.wait_right {r : Request} (h : t.Abreast t') (hr : r.goesOn = true)
    (hstep : r.isStep = false) : t.Abreast (t'.machine.serve t'.dice r) := by
  obtain ⟨hsame, hdice⟩ := Machine.serve_sameInside hr hstep t'.machine t'.dice
  exact ⟨h.running, h.machine.trans hsame, hdice.trans h.dice⟩

theorem Abreast.waitAll_right (h : t.Abreast t') (hqs : ∀ r ∈ qs, r.goesOn = true)
    (hsteps : Request.steps qs = 0) : t.Abreast (t'.andThen qs) := by
  induction qs generalizing t' with
  | nil => exact h
  | cons r qs ih =>
    cases hr : r.isStep with
    | true =>
      rw [Request.steps_cons_of_isStep hr] at hsteps
      cases hsteps
    | false =>
      rw [Request.steps_cons_of_not_isStep hr] at hsteps
      have hnext := h.wait_right (hqs r List.mem_cons_self) hr
      exact ih hnext (fun q hq => hqs q (List.mem_cons_of_mem r hq)) hsteps

/-! ## Rows of requests -/

/-- After as many steps on either side, the two are abreast again. -/
theorem Abreast.andThen (h : t.Abreast t') (hrs : ∀ r ∈ rs, r.goesOn = true)
    (hqs : ∀ r ∈ qs, r.goesOn = true) (hsteps : Request.steps rs = Request.steps qs)
    (hsilent : t.AtSteps Machine.Silent rs) : (t.andThen rs).Abreast (t'.andThen qs) := by
  induction rs generalizing t t' qs with
  | nil => exact h.waitAll_right hqs hsteps.symm
  | cons r rs ih =>
    have hrest : ∀ q ∈ rs, q.goesOn = true := fun q hq => hrs q (List.mem_cons_of_mem r hq)
    obtain ⟨hhead, htail⟩ := atSteps_cons_iff.1 hsilent
    cases hr : r.isStep with
    | false =>
      rw [Request.steps_cons_of_not_isStep hr] at hsteps
      exact ih (h.wait_left (hrs r List.mem_cons_self) hr) hrest hqs hsteps htail
    | true =>
      -- the other side reaches its next step after some requests that are none
      rw [Request.steps_cons_of_isStep hr] at hsteps
      obtain rfl := Request.eq_step_of_isStep hr
      have hpos : 0 < Request.steps qs := by omega
      obtain ⟨calm, more, rfl, hcalm⟩ := Request.exists_step hpos
      have hcalmOn : ∀ q ∈ calm, q.goesOn = true :=
        fun q hq => hqs q (List.mem_append_left _ hq)
      have hmoreOn : ∀ q ∈ more, q.goesOn = true :=
        fun q hq => hqs q (List.mem_append_right _ (List.mem_cons_of_mem _ hq))
      have hmore : Request.steps rs = Request.steps more := by
        rw [Request.steps_append, Request.steps_cons_of_isStep rfl, hcalm] at hsteps
        omega
      have hreached := (h.waitAll_right hcalmOn hcalm).step (hhead rfl)
      rw [andThen_append, andThen_cons, andThen_cons]
      exact ih hreached.2 hrest hmoreOn hmore htail

end Turn

namespace Machine

/-- Two machines that differ in their keys and timers alone run side by side, with
    any keys pressed and any ticks of the timers between the steps of each, and with
    the same random bytes. If the program of one never asks for a key or for the
    delay timer, that of the other does not either; their steps give the same
    answers one by one, and after each of them the machines still differ in their
    keys and timers alone. -/
theorem unasked_inputs_unheard {m n : Machine} (hmode : m.mode = .running)
    (hsame : m.SameInside n) (dice : Dice) (rs qs : List Request)
    (hrs : ∀ r ∈ rs, r.goesOn = true) (hqs : ∀ r ∈ qs, r.goesOn = true)
    (hsteps : Request.steps rs = Request.steps qs) (hsilent : (m.turn dice).AtSteps Silent rs) :
    (n.turn dice).AtSteps Silent qs ∧
      ∀ front behind, front ++ [.step] <+: rs → behind ++ [.step] <+: qs →
        Request.steps front = Request.steps behind →
        ((n.turn dice).andThen (behind ++ [.step])).result =
            ((m.turn dice).andThen (front ++ [.step])).result ∧
          ((m.turn dice).andThen (front ++ [.step])).machine.SameInside
            ((n.turn dice).andThen (behind ++ [.step])).machine := by
  have hstart : (m.turn dice).Abreast (n.turn dice) := ⟨hmode, hsame, rfl⟩
  have habreast : ∀ front behind, front ++ [.step] <+: rs → behind ++ [.step] <+: qs →
      Request.steps front = Request.steps behind →
      ((m.turn dice).andThen front).Abreast ((n.turn dice).andThen behind) := by
    intro front behind hfront hbehind hcount
    have hfront' : front <+: rs := (List.prefix_append front [.step]).trans hfront
    have hbehind' : behind <+: qs := (List.prefix_append behind [.step]).trans hbehind
    exact hstart.andThen (fun r hr => hrs r (hfront'.subset hr))
      (fun r hr => hqs r (hbehind'.subset hr)) hcount (hsilent.front hfront')
  refine ⟨?_, ?_⟩
  · intro behind hbehind i hi
    have hlt := Request.steps_lt_of_prefix hbehind
    rw [← hsteps] at hlt
    obtain ⟨front, rest, hsplit, hcount⟩ := Request.exists_step hlt
    have hfront : front ++ [.step] <+: rs := ⟨rest, by rw [hsplit, List.append_assoc]; rfl⟩
    have hpair := habreast front behind hfront hbehind hcount
    exact hsilent front hfront i (hpair.machine.fetches_iff.1 hi)
  · intro front behind hfront hbehind hcount
    have hpair := habreast front behind hfront hbehind hcount
    rw [Turn.andThen_concat, Turn.andThen_concat]
    obtain ⟨hresult, hnext⟩ := hpair.step (hsilent front hfront)
    exact ⟨hresult, hnext.machine⟩

/-- A machine in front of a word that sets V0. -/
def setter : Machine :=
  { start .spill with
    memory := ⟨Vector.ofFn fun a => if a = 0x200 then 0x60 else if a = 0x201 then 0x07 else 0⟩ }

/-- The same machine with a key down and the delay timer running. -/
def heldSetter : Machine := { setter with keypad := Keypad.released.set 3 true, delay := 9 }

theorem setter_fetches : setter.Fetches (.set 0 7) where
  running := rfl
  inside := by decide
  decoded := by
    simp only [wordAt, setter, Vector.getElem_ofFn]
    decide

theorem setter_step (byte : UInt8) :
    setter.step byte = ⟨.ok .proceed, setter.pastWord.setRegister 0 7, []⟩ := by
  obtain ⟨hmode, word, hword, hi⟩ := fetches_iff.1 setter_fetches
  rw [step_of_fetched hmode hword, hi]
  rfl

theorem setter_silent : setter.Silent := by
  intro i hi
  rw [hi.unique setter_fetches]
  rfl

/-- A key and a tick of the timers before its step do not reach a program that sets a
    register. -/
theorem unheard_heldSetter :
    setter.mode = .running ∧ setter.SameInside heldSetter ∧
      (setter.turn (.ofSeed 0)).AtSteps Silent [.step, .tickTimers] ∧
      ((heldSetter.turn (.ofSeed 0)).andThen ([.setKey 5 true, .tickTimers] ++ [.step])).result =
        .ok (.progress .proceed) ∧
      (setter.pastWord.setRegister 0 7).SameInside
        ((heldSetter.turn (.ofSeed 0)).andThen ([.setKey 5 true, .tickTimers] ++ [.step])).machine := by
  have hsame : setter.SameInside heldSetter := ⟨rfl, rfl, rfl, rfl, rfl, rfl, rfl, rfl⟩
  have hsilent : (setter.turn (.ofSeed 0)).AtSteps Silent [.step, .tickTimers] := by
    refine Turn.atSteps_cons_iff.2 ⟨fun _ => setter_silent, ?_⟩
    exact Turn.atSteps_cons_iff.2 ⟨nofun, Turn.atSteps_nil _ _⟩
  obtain ⟨-, hsteps⟩ := unasked_inputs_unheard (m := setter) (n := heldSetter) rfl hsame (.ofSeed 0)
    [.step, .tickTimers] [.setKey 5 true, .tickTimers, .step]
    (by decide) (by decide) (by decide) hsilent
  obtain ⟨hresult, hmachine⟩ := hsteps [] [.setKey 5 true, .tickTimers]
    ⟨[.tickTimers], rfl⟩ ⟨[], rfl⟩ (by decide)
  have hstep : (setter.turn (.ofSeed 0)).andThen ([] ++ [.step]) =
      setter.serve (.ofSeed 0) .step := rfl
  rw [hstep, serve, setter_step] at hresult hmachine
  exact ⟨rfl, hsame, hsilent, hresult, hmachine⟩

end Machine

end Chip8

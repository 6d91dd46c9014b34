-- SUMMARY: A routine returns behind the word that called it, with the stack as it was.
import Chip8.Proofs.Machine.Faults
import Chip8.Proofs.Requests

/-! # Calls and returns

A call puts the address behind its word on the stack. A step adds one address to
the stack, takes the newest one off, or leaves the stack alone, so what lies
below is out of reach: until the address of the call is taken off, it stays where
it is with all that was there before it, however deep the calls go in between.
Taking it off is a return, and that goes to this very address. -/

namespace Chip8

namespace Machine

variable {m : Machine} {dice : Dice} {r : Request} {below : List UInt16} {back : UInt16}

/-- A request that took a step, with a return in front of the machine, and that
    succeeded. -/
structure Returns (m : Machine) (dice : Dice) (r : Request) : Prop where
  step : r = .step
  fetches : m.Fetches .leave
  succeeds : (m.serve dice r).result = .ok (.progress .proceed)

/-! ## One request -/

/-- A return that succeeds goes to the newest address and takes it off. -/
theorem effect_leave_eq_ok {byte : UInt8} {after : Machine} (h : m.effect byte .leave = .ok after) :
    m.stack = after.stack ++ [after.pc] := by
  obtain ⟨caller, hcaller, rfl⟩ := executeLeave_eq_ok h
  obtain ⟨older, hstack⟩ := List.getLast?_eq_some_iff.1 hcaller
  simp [hstack]

/-- An instruction leaves the stack alone, adds to it or returns. -/
theorem stack_effect {byte : UInt8} {i : Instruction} {after : Machine}
    (h : m.effect byte i = .ok after) :
    after.stack = m.stack ∨ (∃ a, after.stack = m.stack ++ [a]) ∨
      i = .leave ∧ m.stack = after.stack ++ [after.pc] := by
  have hstack := (effect_of_ok h).stack
  cases i with
  | call nnn => exact .inr (.inl ⟨m.pc, hstack⟩)
  | leave => exact .inr (.inr ⟨rfl, effect_leave_eq_ok h⟩)
  | _ => exact .inl hstack

/-- A step leaves the stack alone, adds to it or returns. -/
theorem stack_step (m : Machine) (dice : Dice) :
    (m.step dice.top).machine.stack = m.stack ∨
      (∃ a, (m.step dice.top).machine.stack = m.stack ++ [a]) ∨
      m.Returns dice .step ∧
        m.stack = (m.step dice.top).machine.stack ++ [(m.step dice.top).machine.pc] := by
  cases hmode : m.mode with
  | awaiting x =>
    rw [step_of_awaiting hmode]
    left
    unfold awaitKey
    split <;> rfl
  | running =>
    cases hword : m.nextWord with
    | error fault =>
      rw [step_of_unfetched hmode hword]
      exact .inl rfl
    | ok word =>
      cases heffect : m.pastWord.effect dice.top (Instruction.decode word) with
      | error fault =>
        rw [step_of_fetched hmode hword, execute_of_error heffect]
        exact .inl rfl
      | ok after =>
        have hstep := (step_of_fetched hmode hword dice.top).trans (execute_of_ok heffect)
        rw [hstep]
        rcases stack_effect heffect with hsame | ⟨a, hadd⟩ | ⟨hleave, hback⟩
        · exact .inl hsame
        · exact .inr (.inl ⟨a, hadd⟩)
        · have hsucceeds : (m.serve dice .step).result = .ok (.progress .proceed) := by
            simp only [serve, hstep, hleave]
            rfl
          exact .inr (.inr ⟨⟨rfl, fetches_iff.2 ⟨hmode, word, hword, hleave⟩, hsucceeds⟩, hback⟩)

/-- Requests that leave the program in place touch the stack in steps alone. -/
theorem stack_serve (hr : r.goesOn = true) (m : Machine) (dice : Dice) :
    (m.serve dice r).machine.stack = m.stack ∨
      (∃ a, (m.serve dice r).machine.stack = m.stack ++ [a]) ∨
      m.Returns dice r ∧
        m.stack = (m.serve dice r).machine.stack ++ [(m.serve dice r).machine.pc] := by
  cases r with
  | step => exact m.stack_step dice
  | tickTimers | press | release | setKey => exact .inl rfl
  | load | reset | restore => cases hr

/-- An address with all that lies below it stays on the stack, unless it is the
    newest one and the request returns to it. -/
theorem serve_keeps_back (hr : r.goesOn = true) (dice : Dice) (hm : below ++ [back] <+: m.stack) :
    below ++ [back] <+: (m.serve dice r).machine.stack ∨
      m.Returns dice r ∧ (m.serve dice r).machine.stack = below ∧
        (m.serve dice r).machine.pc = back := by
  rcases m.stack_serve hr dice with hsame | ⟨a, hadd⟩ | ⟨hreturns, hback⟩
  · exact .inl (hsame ▸ hm)
  · exact .inl (hadd ▸ hm.trans (List.prefix_append _ _))
  · rw [hback, List.prefix_concat_iff] at hm
    rcases hm with hnewest | hbelow
    · obtain ⟨hstack, hpc⟩ := List.append_inj' hnewest rfl
      exact .inr ⟨hreturns, hstack.symm, (List.singleton_inj.1 hpc).symm⟩
    · exact .inl hbelow

/-! ## Rows of requests -/

/-- An address stays on the stack, with all that lies below it, as long as the
    stack stays longer than that after every request. -/
theorem andThen_keeps_back {t : Turn} {rs : List Request} (hrs : ∀ r ∈ rs, r.goesOn = true)
    (ht : below ++ [back] <+: t.machine.stack)
    (hlong : ∀ front, front <+: rs → front ≠ [] →
      below.length < (t.andThen front).machine.stack.length) :
    below ++ [back] <+: (t.andThen rs).machine.stack := by
  induction rs generalizing t with
  | nil => exact ht
  | cons r rs ih =>
    have hnext : below ++ [back] <+: (t.machine.serve t.dice r).machine.stack := by
      rcases serve_keeps_back (hrs r List.mem_cons_self) t.dice ht with hkept | ⟨-, hstack, -⟩
      · exact hkept
      · have hlonger : below.length < (t.machine.serve t.dice r).machine.stack.length :=
          hlong [r] ⟨rs, rfl⟩ (List.cons_ne_nil _ _)
        rw [hstack] at hlonger
        exact absurd hlonger (Nat.lt_irrefl _)
    refine ih (fun q hq => hrs q (List.mem_cons_of_mem r hq)) hnext ?_
    intro front hfront _
    exact hlong (r :: front) (List.cons_prefix_cons.2 ⟨rfl, hfront⟩) (List.cons_ne_nil _ _)

/-- A call that succeeds puts the address behind its word on the stack. -/
theorem stack_of_call {nnn : UInt16} {answer : Answer} (hcall : m.Fetches (.call nnn))
    (hok : (m.serve dice .step).result = .ok answer) :
    (m.serve dice .step).machine.stack = m.stack ++ [m.pc + 2] := by
  obtain ⟨progress, hstep, -⟩ := map_eq_ok_iff.1 hok
  exact (effect_of_ok (hcall.effect_eq_ok hstep)).stack

/-- A call that succeeds adds the address behind its word to the stack. From then
    on, whatever program runs and whatever keys are pressed: while the stack is
    longer than before the call, it starts with what it was then and that address.
    The first request that makes it no longer than that is a step that returns, and
    it leaves the stack as it was and the machine behind the call. -/
theorem call_returns {nnn : UInt16} {answer : Answer} (hcall : m.Fetches (.call nnn))
    (hok : (m.serve dice .step).result = .ok answer) :
    let after := fun rs => (m.serve dice .step).andThen rs
    (m.serve dice .step).machine.stack = m.stack ++ [m.pc + 2] ∧
      (m.pc + 2).toNat = m.pc.toNat + 2 ∧
      (∀ rs, (∀ r ∈ rs, r.goesOn = true) →
        (∀ front, front <+: rs → front ≠ [] →
          m.stack.length < (after front).machine.stack.length) →
        m.stack ++ [m.pc + 2] <+: (after rs).machine.stack) ∧
      ∀ rs last, (∀ r ∈ rs ++ [last], r.goesOn = true) →
        (∀ front, front <+: rs → front ≠ [] →
          m.stack.length < (after front).machine.stack.length) →
        (after (rs ++ [last])).machine.stack.length ≤ m.stack.length →
        last = .step ∧ (after rs).machine.Fetches .leave ∧
          (after (rs ++ [last])).result = .ok (.progress .proceed) ∧
          (after (rs ++ [last])).machine.stack = m.stack ∧
          (after (rs ++ [last])).machine.pc = m.pc + 2 := by
  intro after
  have hpushed : (m.serve dice .step).machine.stack = m.stack ++ [m.pc + 2] :=
    stack_of_call hcall hok
  have hcalled : m.stack ++ [m.pc + 2] <+: (m.serve dice .step).machine.stack :=
    hpushed ▸ List.prefix_refl _
  refine ⟨hpushed, ?_, ?_, ?_⟩
  · have hpc : m.pc.toNat + 1 < 4096 := hcall.inside
    have htwo : (2 : UInt16).toNat = 2 := rfl
    rw [UInt16.toNat_add, htwo, Nat.mod_eq_of_lt (by omega)]
  · intro rs hrs hlong
    exact andThen_keeps_back hrs hcalled hlong
  · intro rs last hrs hlong hshort
    have hkept : m.stack ++ [m.pc + 2] <+: (after rs).machine.stack :=
      andThen_keeps_back (fun r hr => hrs r (List.mem_append_left _ hr)) hcalled hlong
    have hlast : last.goesOn = true := hrs last (List.mem_append_right _ List.mem_cons_self)
    have hconcat : after (rs ++ [last]) = (after rs).machine.serve (after rs).dice last :=
      Turn.andThen_concat _ rs last
    rw [hconcat] at hshort ⊢
    rcases serve_keeps_back hlast (after rs).dice hkept with hprefix | ⟨hreturns, hstack, hpc⟩
    · have hlength := hprefix.length_le
      rw [List.length_append, List.length_singleton] at hlength
      omega
    · exact ⟨hreturns.step, hreturns.fetches, hreturns.succeeds, hstack, hpc⟩

/-- A machine in front of a call, whose routine does nothing but return. -/
def caller : Machine :=
  { start .spill with
    memory := ⟨Vector.ofFn fun a =>
      if a = 0x200 then 0x22 else if a = 0x201 then 0x04 else if a = 0x205 then 0xEE else 0⟩ }

theorem caller_fetches : caller.Fetches (.call 0x204) where
  running := rfl
  inside := by decide
  decoded := by
    simp only [wordAt, caller, Vector.getElem_ofFn]
    decide

/-- The machine inside of the routine. -/
def called : Machine := { caller with pc := 0x204, stack := [0x202] }

theorem called_fetches : called.Fetches .leave where
  running := rfl
  inside := by decide
  decoded := by
    simp only [wordAt, called, caller, Vector.getElem_ofFn]
    decide

theorem caller_step (byte : UInt8) : caller.step byte = ⟨.ok .proceed, called, []⟩ := by
  obtain ⟨hmode, word, hword, hi⟩ := fetches_iff.1 caller_fetches
  rw [step_of_fetched hmode hword, hi]
  rfl

theorem called_step (byte : UInt8) :
    called.step byte = ⟨.ok .proceed, { called with pc := 0x202, stack := [] }, []⟩ := by
  obtain ⟨hmode, word, hword, hi⟩ := fetches_iff.1 called_fetches
  rw [step_of_fetched hmode hword, hi]
  rfl

/-- A call, a tick of the timers and the return: the address behind the call goes
    on the stack and comes off again, and the program goes on there. -/
theorem caller_returns :
    let after := fun rs => (caller.serve (.ofSeed 0) .step).andThen rs
    caller.Fetches (.call 0x204) ∧
      (caller.serve (.ofSeed 0) .step).result = .ok (.progress .proceed) ∧
      (caller.serve (.ofSeed 0) .step).machine.stack = [0x202] ∧
      (after ([.tickTimers] ++ [.step])).result = .ok (.progress .proceed) ∧
      (after ([.tickTimers] ++ [.step])).machine.stack = [] ∧
      (after ([.tickTimers] ++ [.step])).machine.pc = 0x202 := by
  intro after
  have hok : (caller.serve (.ofSeed 0) .step).result = .ok (.progress .proceed) := by
    rw [serve, caller_step]
    rfl
  have hcalled : (caller.serve (.ofSeed 0) .step).machine = called := by
    rw [serve, caller_step]
  have hticked : (after [.tickTimers]).machine = called := by
    have hserve : (after [.tickTimers]).machine =
        (caller.serve (.ofSeed 0) .step).machine.tickTimers.2 := rfl
    rw [hserve, hcalled]
    rfl
  have hlong : ∀ front, front <+: [Request.tickTimers] → front ≠ [] →
      caller.stack.length < (after front).machine.stack.length := by
    intro front hfront hnonempty
    have hdeep : caller.stack.length < called.stack.length := by decide
    have hwhole : front = [.tickTimers] :=
      hfront.eq_of_length_le (List.length_pos_iff.2 hnonempty)
    rw [hwhole, hticked]
    exact hdeep
  have hshort : (after ([.tickTimers] ++ [.step])).machine.stack.length ≤ caller.stack.length := by
    have hconcat : after ([.tickTimers] ++ [.step]) =
        (after [.tickTimers]).machine.serve (after [.tickTimers]).dice .step :=
      Turn.andThen_concat _ [.tickTimers] .step
    rw [hconcat, hticked, serve, called_step]
    exact Nat.le_refl 0
  obtain ⟨hpushed, -, -, hreturns⟩ := call_returns caller_fetches hok
  obtain ⟨-, -, hresult, hstack, hpc⟩ := hreturns [.tickTimers] .step (by decide) hlong hshort
  exact ⟨caller_fetches, hok, hpushed, hresult, hstack, hpc⟩

end Machine

end Chip8

-- SUMMARY: Every machine that can be reached can be saved and restored.
import Chip8.Proofs.Machine.Step
import Chip8.Proofs.Requests
import Chip8.Proofs.SaveState

/-! # Machines can be saved

The stack of a machine stays within its limit and its pixels stay lit or dark,
whatever is asked of the machine and whether or not it fails. So its state can
always be written, read back and restored. -/

namespace Chip8

/-! ## Pixels -/

namespace Display

theorem crisp_blank : blank.Crisp := fun p => .inl (Vector.getElem_replicate p.isLt)

/-- Inverting a pixel that is lit or dark leaves it dark or lit. -/
theorem Crisp.toggle {d : Display} (hd : d.Crisp) (p : Fin displaySize) : (d.toggle p).Crisp := by
  intro q
  by_cases hq : p = q
  · subst hq
    have hset : (d.toggle p).pixels.get p = d.pixels.get p ^^^ lit :=
      Vector.getElem_set_self p.isLt
    rw [hset]
    rcases hd p with h | h <;> rw [h]
    · exact .inr rfl
    · exact .inl rfl
  · have hset : (d.toggle p).pixels.get q = d.pixels.get q :=
      Vector.getElem_set_ne p.isLt q.isLt fun h => hq (Fin.ext h)
    rw [hset]
    exact hd q

theorem Crisp.toggleAll {d : Display} (hd : d.Crisp) (pixels : List (Fin displaySize)) :
    (d.toggleAll pixels).Crisp := by
  induction pixels generalizing d with
  | nil => exact hd
  | cons p pixels ih => exact ih (hd.toggle p)

end Display

namespace Machine

/-- The stack is within the limit and every pixel is lit or dark. -/
structure Savable (m : Machine) : Prop where
  calls : m.stack.length ≤ callLimit
  pixels : m.display.Crisp

variable {m : Machine}

theorem Savable.proper (hm : m.Savable) : m.saveState.Proper := ⟨hm.calls, hm.pixels⟩

theorem savable_start (edge : SpriteEdge) : (start edge).Savable :=
  ⟨Nat.zero_le callLimit, Display.crisp_blank⟩

/-! ## One operation -/

/-- Only a call adds to the stack, and only when there is room. -/
theorem Savable.effect {after : Machine} {byte : UInt8} {i : Instruction} (hm : m.Savable)
    (h : m.effect byte i = .ok after) : after.Savable := by
  have heffect := effect_of_ok h
  refine ⟨?_, ?_⟩
  · rw [heffect.stack]
    cases i with
    | call nnn =>
      rw [stackAfter_call, List.length_append, List.length_singleton]
      exact (executeCall_eq_ok h).1
    | leave =>
      rw [stackAfter_leave, List.length_dropLast]
      exact Nat.le_trans (Nat.sub_le _ 1) hm.calls
    | _ => exact hm.calls
  · rw [heffect.display]
    cases i with
    | clear => exact Display.crisp_blank
    | draw x y n => exact hm.pixels.toggleAll _
    | _ => exact hm.pixels

theorem Savable.execute (hm : m.Savable) (byte : UInt8) (i : Instruction) :
    (m.execute byte i).machine.Savable := by
  unfold Machine.execute
  split
  · next heffect => exact hm.effect heffect
  · exact hm

theorem Savable.pastWord (hm : m.Savable) : m.pastWord.Savable := ⟨hm.calls, hm.pixels⟩

theorem Savable.step (hm : m.Savable) (byte : UInt8) : (m.step byte).machine.Savable := by
  unfold Machine.step
  split
  · unfold awaitKey
    split <;> exact ⟨hm.calls, hm.pixels⟩
  · split
    · exact hm
    · exact hm.pastWord.execute byte _

theorem Savable.fetch (hm : m.Savable) : m.fetch.machine.Savable := by
  unfold Machine.fetch
  split
  · exact hm
  · exact hm.pastWord

theorem Savable.load (hm : m.Savable) (program : List UInt8) :
    (m.load program).machine.Savable := by
  have hstart := savable_start m.edge
  unfold Machine.load
  split
  · exact hm
  · exact ⟨hstart.calls, hstart.pixels⟩

theorem Savable.restore (hm : m.Savable) (s : SaveState) : (m.restore s).machine.Savable := by
  by_cases hs : s.Proper
  · rw [m.restore_of_proper hs]
    exact ⟨hs.calls, hs.pixels⟩
  · obtain ⟨fault, heq⟩ := m.restore_of_not_proper hs
    rw [heq]
    exact hm

theorem Savable.serve (hm : m.Savable) (dice : Dice) (r : Request) :
    (m.serve dice r).machine.Savable := by
  cases r with
  | load program => exact hm.load program
  | reset => exact savable_start m.edge
  | restore state => exact hm.restore state
  | step => exact hm.step dice.top
  | tickTimers | press | release | setKey => exact ⟨hm.calls, hm.pixels⟩

theorem Savable.perform (hm : m.Savable) (dice : Dice) (o : Operation) :
    (m.perform dice o).machine.Savable := by
  cases o with
  | request r => exact hm.serve dice r
  | execute i => exact hm.execute dice.top i
  | fetch => exact hm.fetch

/-! ## The treatment of the edge -/

theorem start_edge (edge : SpriteEdge) : (start edge).edge = edge := rfl

theorem withMemory_edge (m : Machine) (memory : Memory) :
    { m with memory := memory }.edge = m.edge := rfl

theorem load_edge (m : Machine) (program : List UInt8) :
    (m.load program).machine.edge = m.edge := by
  unfold Machine.load
  split
  · rfl
  · exact (withMemory_edge m.reset _).trans (start_edge m.edge)

theorem serve_edge (m : Machine) (dice : Dice) (r : Request) :
    (m.serve dice r).machine.edge = m.edge := by
  cases r with
  | load program => exact m.load_edge program
  | reset => exact start_edge m.edge
  | restore state =>
    simp only [serve, restore]
    split <;> rfl
  | step => exact m.step_edge dice.top
  | tickTimers | press | release | setKey => rfl

theorem perform_edge (m : Machine) (dice : Dice) (o : Operation) :
    (m.perform dice o).machine.edge = m.edge := by
  cases o with
  | request r => exact m.serve_edge dice r
  | execute i => exact m.execute_edge dice.top i
  | fetch =>
    simp only [perform, Machine.fetch]
    split <;> rfl

/-! ## Rows of operations -/

theorem Savable.performAll (hm : m.Savable) (dice : Dice) (os : List Operation) :
    (m.performAll dice os).Savable := by
  induction os generalizing m dice with
  | nil => exact hm
  | cons o os ih => exact ih (hm.perform dice o) _

theorem performAll_edge (m : Machine) (dice : Dice) (os : List Operation) :
    (m.performAll dice os).edge = m.edge := by
  induction os generalizing m dice with
  | nil => rfl
  | cons o os ih => exact (ih _ _).trans (m.perform_edge dice o)

theorem Reachable.savable (hm : m.Reachable) : m.Savable := by
  obtain ⟨edge, dice, os, rfl⟩ := hm
  exact (savable_start edge).performAll dice os

/-- Whatever is done to a machine, succeeding or failing, its stack stays within
    the limit, its pixels lit or dark and its treatment of the edge as it was.
    So its state can be restored by every machine and is read back from its
    text. -/
theorem performAll_savable (edge : SpriteEdge) (dice : Dice) (os : List Operation) :
    let m := (start edge).performAll dice os
    m.stack.length ≤ 16 ∧
      (∀ p : Fin displaySize, m.display.pixels.get p = 0 ∨ m.display.pixels.get p = 255) ∧
      m.edge = edge ∧
      m.saveState.fault? = none ∧
      (∀ other : Machine, (other.restore m.saveState).result = .ok ()) ∧
      SaveState.ofJson m.saveState.toJson = .ok m.saveState := by
  intro m
  have hm : m.Savable := (savable_start edge).performAll dice os
  refine ⟨hm.calls, hm.pixels, performAll_edge _ dice os, ?_, ?_, ?_⟩
  · exact (SaveState.fault?_eq_none_iff _).2 hm.proper
  · intro other
    rw [other.restore_of_proper hm.proper]
  · exact SaveState.ofJson_toJson hm.proper

end Machine

end Chip8

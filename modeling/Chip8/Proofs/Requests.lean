-- SUMMARY: Everything that can be asked of a machine, and what a row of it leaves.
import Chip8.Dice
import Chip8.Machine.Step
import Chip8.SaveState

/-! # Requests

A host asks a machine for one thing after another: it loads a program, saves and
restores, presses keys, and takes steps and timer ticks in between. Beside these
requests there are two operations that take a step apart: executing an
instruction that was not fetched, and fetching a word without executing it.

Random bytes come from dice that are handed from one operation to the next, so
two machines with the same dice draw the same byte at their k-th draw, whatever
they do in between. -/

namespace Chip8

/-- What a host asks of a machine. -/
inductive Request where
  | load (program : List UInt8)
  | reset
  | restore (state : SaveState)
  | step
  | tickTimers
  | press (symbol : Char)
  | release (symbol : Char)
  | setKey (key : Key) (down : Bool)

/-- All operations on a machine. -/
inductive Operation where
  | request (r : Request)
  | execute (i : Instruction)
  | fetch

/-- What an operation answers when it does not fail. -/
inductive Answer where
  | done
  | progress (p : Progress)
  | beep (sounds : Bool)
  | word (w : UInt16)
deriving DecidableEq

/-- What came of an operation: its answer or its fault, and the machine and the
    dice that it left. -/
structure Turn where
  result : Except Fault Answer
  machine : Machine
  dice : Dice

/-- Whether an instruction uses its random byte. -/
def Instruction.rolls : Instruction → Bool
  | .random _ _ => true
  | _ => false

namespace Machine

/-- Does what a host asks. -/
def serve (m : Machine) (dice : Dice) : Request → Turn
  | .load program => ⟨(m.load program).result.map fun _ => .done, (m.load program).machine, dice⟩
  | .reset => ⟨.ok .done, m.reset, dice⟩
  | .restore state => ⟨(m.restore state).result.map fun _ => .done, (m.restore state).machine, dice⟩
  | .step =>
    ⟨(m.step dice.top).result.map .progress, (m.step dice.top).machine,
      if m.rolls then dice.rest else dice⟩
  | .tickTimers => ⟨.ok (.beep m.tickTimers.1), m.tickTimers.2, dice⟩
  | .press symbol => ⟨.ok .done, m.press symbol, dice⟩
  | .release symbol => ⟨.ok .done, m.release symbol, dice⟩
  | .setKey key down => ⟨.ok .done, m.setKey key down, dice⟩

/-- Performs one operation. -/
def perform (m : Machine) (dice : Dice) : Operation → Turn
  | .request r => m.serve dice r
  | .execute i =>
    ⟨(m.execute dice.top i).result.map .progress, (m.execute dice.top i).machine,
      if i.rolls then dice.rest else dice⟩
  | .fetch => ⟨m.fetch.result.map .word, m.fetch.machine, dice⟩

/-- The machine after operations, whether each of them succeeds or fails. -/
def performAll (m : Machine) (dice : Dice) : List Operation → Machine
  | [] => m
  | o :: os => (m.perform dice o).machine.performAll (m.perform dice o).dice os

/-- The machine after requests, whether each of them succeeds or fails. -/
def serveAll (m : Machine) (dice : Dice) : List Request → Machine
  | [] => m
  | r :: rs => (m.serve dice r).machine.serveAll (m.serve dice r).dice rs

/-- What a host sees of requests: each answer or fault, and the state after it. -/
def transcript (m : Machine) (dice : Dice) : List Request → List (Except Fault Answer × SaveState)
  | [] => []
  | r :: rs =>
    ((m.serve dice r).result, (m.serve dice r).machine.saveState) ::
      (m.serve dice r).machine.transcript (m.serve dice r).dice rs

/-- A machine that operations lead to from one that was just switched on. -/
def Reachable (m : Machine) : Prop :=
  ∃ (edge : SpriteEdge) (dice : Dice) (os : List Operation), m = (start edge).performAll dice os

/-- Requests are operations. -/
theorem serveAll_eq_performAll (m : Machine) (dice : Dice) (rs : List Request) :
    m.serveAll dice rs = m.performAll dice (rs.map .request) := by
  induction rs generalizing m dice with
  | nil => rfl
  | cons r rs ih => exact ih _ _

/-- A machine of which nothing has been asked yet. -/
def turn (m : Machine) (dice : Dice) : Turn := ⟨.ok .done, m, dice⟩

end Machine

/-! ## Requests one after another -/

/-- Whether a request leaves the program that runs in place: it neither loads nor
    resets nor restores. -/
def Request.goesOn : Request → Bool
  | .load _ | .reset | .restore _ => false
  | .step | .tickTimers | .press _ | .release _ | .setKey _ _ => true

namespace Turn

/-- What came of the last of further requests. -/
def andThen (t : Turn) (rs : List Request) : Turn :=
  rs.foldl (fun t r => t.machine.serve t.dice r) t

theorem andThen_cons (t : Turn) (r : Request) (rs : List Request) :
    t.andThen (r :: rs) = (t.machine.serve t.dice r).andThen rs := rfl

theorem andThen_append (t : Turn) (rs qs : List Request) :
    t.andThen (rs ++ qs) = (t.andThen rs).andThen qs :=
  List.foldl_append

theorem andThen_concat (t : Turn) (rs : List Request) (r : Request) :
    t.andThen (rs ++ [r]) = (t.andThen rs).machine.serve (t.andThen rs).dice r :=
  t.andThen_append rs [r]

/-- The machine after a row of requests is the one after the last of them. -/
theorem andThen_machine (t : Turn) (rs : List Request) :
    (t.andThen rs).machine = t.machine.serveAll t.dice rs := by
  induction rs generalizing t with
  | nil => rfl
  | cons r rs ih => exact ih (t.machine.serve t.dice r)

/-- Every step of a row is taken by a machine with a property. -/
def AtSteps (t : Turn) (holds : Machine → Prop) (rs : List Request) : Prop :=
  ∀ front, front ++ [.step] <+: rs → holds (t.andThen front).machine

variable {t : Turn} {holds : Machine → Prop} {r : Request} {rs : List Request}

theorem atSteps_nil (t : Turn) (holds : Machine → Prop) : t.AtSteps holds [] := by
  intro front hfront
  exact absurd (List.prefix_nil.1 hfront) (List.concat_ne_nil .step front)

theorem atSteps_cons_iff :
    t.AtSteps holds (r :: rs) ↔
      (r = .step → holds t.machine) ∧ (t.machine.serve t.dice r).AtSteps holds rs := by
  constructor
  · intro h
    refine ⟨?_, fun front hfront => h (r :: front) (List.cons_prefix_cons.2 ⟨rfl, hfront⟩)⟩
    rintro rfl
    exact h [] ⟨rs, rfl⟩
  · rintro ⟨hhead, htail⟩ front hfront
    cases front with
    | nil => exact hhead (List.cons_prefix_cons.1 hfront).1.symm
    | cons q front =>
      obtain ⟨rfl, hrest⟩ := List.cons_prefix_cons.1 hfront
      exact htail front hrest

theorem AtSteps.front {earlier : List Request} (h : t.AtSteps holds rs) (hrs : earlier <+: rs) :
    t.AtSteps holds earlier :=
  fun front hfront => h front (hfront.trans hrs)

end Turn

end Chip8

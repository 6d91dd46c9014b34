-- SUMMARY: A frame asks the machine for a row of steps and a tick of its timers.
import Chip8.Proofs.Requests
import Chip8.Ticker

/-! # Frames among requests

A ticker asks its machine for nothing but steps and ticks of the timers. So a frame
comes to what a row of requests comes to, and a machine that runs in frames and is
asked for other things in between serves one row of requests in all. -/

namespace Chip8

/-- What is done with a machine: it serves a request, or a ticker that has it runs a
    frame. -/
inductive Demand where
  | request (r : Request)
  | frame (batch frameNanos : Nat) (stopped : Bool)

/-- Whether a demand leaves the program that runs in place. -/
def Demand.goesOn : Demand → Bool
  | .request r => r.goesOn
  | .frame _ _ _ => true

namespace Machine

/-- The machine and the dice after a demand. -/
def meet (m : Machine) (dice : Dice) : Demand → Machine × Dice
  | .request r => ((m.serve dice r).machine, (m.serve dice r).dice)
  | .frame batch frameNanos stopped =>
    let tick := Ticker.tick ⟨m, batch, frameNanos, stopped⟩ dice
    (tick.ticker.machine, tick.dice)

/-- The machine and the dice after demands. -/
def meetAll (m : Machine) (dice : Dice) : List Demand → Machine × Dice
  | [] => (m, dice)
  | d :: ds => (m.meet dice d).1.meetAll (m.meet dice d).2 ds

/-! ## The requests of a frame -/

/-- What a batch of up to `count` steps and the tick of the timers behind it ask of a
    machine. A step that fails is the last request. -/
def batchRequests (count : Nat) (m : Machine) (dice : Dice) : List Request :=
  match count with
  | 0 => [.tickTimers]
  | count + 1 =>
    .step ::
      match (m.step dice.top).result with
      | .error _ => []
      | .ok .wait => [.tickTimers]
      | .ok .proceed => batchRequests count (m.serve dice .step).machine (m.serve dice .step).dice

/-- What a demand asks of a machine. -/
def requestsOf (m : Machine) (dice : Dice) : Demand → List Request
  | .request r => [r]
  | .frame batch _ stopped => if stopped then [] else m.batchRequests batch dice

/-- What demands ask of a machine. -/
def requestsOfAll (m : Machine) (dice : Dice) : List Demand → List Request
  | [] => []
  | d :: ds => m.requestsOf dice d ++ (m.meet dice d).1.requestsOfAll (m.meet dice d).2 ds

theorem batchRequests_goesOn (m : Machine) (count : Nat) (dice : Dice) :
    ∀ r ∈ m.batchRequests count dice, r.goesOn = true := by
  induction count generalizing m dice with
  | zero => simp [batchRequests, Request.goesOn]
  | succ count ih =>
    intro r hr
    rw [batchRequests, List.mem_cons] at hr
    rcases hr with rfl | hr
    · rfl
    · split at hr
      · cases hr
      · rw [List.mem_singleton.1 hr]
        rfl
      · exact ih _ _ r hr

/-- Demands ask for the requests among them, and beyond these for nothing that would
    replace the program. -/
theorem mem_requestsOfAll {m : Machine} {dice : Dice} {ds : List Demand} {r : Request}
    (hr : r ∈ m.requestsOfAll dice ds) : .request r ∈ ds ∨ r.goesOn = true := by
  induction ds generalizing m dice with
  | nil => cases hr
  | cons d ds ih =>
    rw [requestsOfAll, List.mem_append] at hr
    rcases hr with hr | hr
    · cases d with
      | request q =>
        rw [List.mem_singleton.1 hr]
        exact .inl List.mem_cons_self
      | frame batch frameNanos stopped =>
        simp only [requestsOf] at hr
        split at hr
        · cases hr
        · exact .inr (m.batchRequests_goesOn batch dice r hr)
    · exact (ih hr).imp_left (List.mem_cons_of_mem d)

theorem requestsOfAll_goesOn (m : Machine) (dice : Dice) {ds : List Demand}
    (hds : ∀ d ∈ ds, d.goesOn = true) : ∀ r ∈ m.requestsOfAll dice ds, r.goesOn = true :=
  fun _ hr => (mem_requestsOfAll hr).elim (hds _) id

end Machine

namespace Turn

/-- A batch and the tick behind it, which there is unless a step failed, come to the
    same as what they ask for. -/
theorem andThen_batchRequests (t : Turn) (count : Nat) (said : Array Notice) :
    let run := t.machine.runBatch count t.dice said
    let last := t.andThen (t.machine.batchRequests count t.dice)
    last.dice = run.dice ∧
      last.machine = if run.fault.isSome then run.machine else run.machine.tickTimers.2 := by
  induction count generalizing t said with
  | zero => exact ⟨rfl, rfl⟩
  | succ count ih =>
    intro run last
    simp only [run, last, Machine.runBatch, Machine.batchRequests, andThen_cons]
    cases (t.machine.step t.dice.top).result with
    | error fault => exact ⟨rfl, rfl⟩
    | ok progress =>
      cases progress with
      | wait => exact ⟨rfl, rfl⟩
      | proceed => exact ih (t.machine.serve t.dice .step) _

/-- A demand comes to the same as what it asks for. -/
theorem andThen_requestsOf (t : Turn) (d : Demand) :
    ((t.andThen (t.machine.requestsOf t.dice d)).machine,
      (t.andThen (t.machine.requestsOf t.dice d)).dice) = t.machine.meet t.dice d := by
  cases d with
  | request r => rfl
  | frame batch frameNanos stopped =>
    cases stopped with
    | true => rfl
    | false =>
      obtain ⟨hdice, hmachine⟩ := t.andThen_batchRequests batch #[]
      simp only [Machine.requestsOf, Machine.meet, Ticker.tick, Bool.false_eq_true, if_false, hdice,
        hmachine]
      cases (t.machine.runBatch batch t.dice #[]).fault with
      | none => rfl
      | some fault => rfl

/-- Demands come to the same as all that they ask for. -/
theorem andThen_requestsOfAll (t : Turn) (ds : List Demand) :
    ((t.andThen (t.machine.requestsOfAll t.dice ds)).machine,
      (t.andThen (t.machine.requestsOfAll t.dice ds)).dice) = t.machine.meetAll t.dice ds := by
  induction ds generalizing t with
  | nil => rfl
  | cons d ds ih =>
    rw [Machine.requestsOfAll, andThen_append, Machine.meetAll, ← t.andThen_requestsOf d]
    exact ih (t.andThen (t.machine.requestsOf t.dice d))

end Turn

namespace Machine

/-- The machine after demands is the one after all that they ask for. -/
theorem meetAll_machine (m : Machine) (dice : Dice) (ds : List Demand) :
    (m.meetAll dice ds).1 = m.serveAll dice (m.requestsOfAll dice ds) := by
  have hall := congrArg Prod.fst ((m.turn dice).andThen_requestsOfAll ds)
  exact hall.symm.trans ((m.turn dice).andThen_machine _)

end Machine

end Chip8

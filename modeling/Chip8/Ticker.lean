import Chip8.Dice
import Chip8.Machine.Step
import Chip8.Settings

/-! # Frames

A ticker runs a machine frame by frame: a batch of steps, then one tick of the
timers. A batch ends early when the machine waits for a key, and a step that
fails ends the frame without a tick. A ticker that was stopped shows the same
frame again and does nothing else. -/

namespace Chip8

/-- What a frame shows, and whether it beeps. -/
structure Frame where
  display : Display
  beep : Bool
deriving DecidableEq

structure Ticker where
  machine : Machine
  /-- Steps of a frame. -/
  batch : Nat
  /-- Nanoseconds of a frame. -/
  frameNanos : Nat
  stopped : Bool := false
deriving DecidableEq

/-- What came of running a machine for a while: the fault that stopped it, the
    machine, the dice that are left and what the steps had to say. -/
structure Run where
  fault : Option Fault
  machine : Machine
  dice : Dice
  notices : Array Notice

namespace Machine

/-- Takes up to `count` steps, until one fails or the machine waits. -/
def runBatch (count : Nat) (dice : Dice) (m : Machine) (said : Array Notice) : Run :=
  match count with
  | 0 => ⟨none, m, dice, said⟩
  | count + 1 =>
    let left := if m.rolls then dice.rest else dice
    let outcome := m.step dice.top
    let said := said ++ outcome.notices
    match outcome.result with
    | .error fault => ⟨some fault, outcome.machine, left, said⟩
    | .ok .wait => ⟨none, outcome.machine, left, said⟩
    | .ok .proceed => runBatch count left outcome.machine said

end Machine

/-- What came of one frame. -/
structure Tick where
  result : Except Fault Frame
  ticker : Ticker
  dice : Dice
  notices : Array Notice := #[]

namespace Ticker

/-- A ticker for a machine, if the settings are good. The machine keeps its own
    treatment of the edge. -/
def ofMachine (m : Machine) (settings : Settings) : Except Fault Ticker :=
  match settings.fault? with
  | some fault => .error (.badSettings fault)
  | none => .ok { machine := m, batch := settings.batch, frameNanos := settings.frameNanos }

/-- A ticker for a machine that was just switched on. -/
def ofSettings (settings : Settings) : Except Fault Ticker :=
  ofMachine (.start settings.edge) settings

/-- What the machine shows now. -/
def frame (t : Ticker) (beep : Bool) : Frame := ⟨t.machine.display, beep⟩

/-- Runs one frame. -/
def tick (t : Ticker) (dice : Dice) : Tick :=
  if t.stopped then { result := .ok (t.frame false), ticker := t, dice := dice }
  else
    let run := t.machine.runBatch t.batch dice #[]
    match run.fault with
    | some fault => ⟨.error fault, { t with machine := run.machine }, run.dice, run.notices⟩
    | none =>
      let (beep, machine) := run.machine.tickTimers
      let after := { t with machine := machine }
      ⟨.ok (after.frame beep), after, run.dice, run.notices⟩

/-- Stops the ticker, and says so. -/
def stop (t : Ticker) : Ticker × List Notice := ({ t with stopped := true }, [.stopping])

end Ticker

end Chip8

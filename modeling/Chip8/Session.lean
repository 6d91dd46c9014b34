import Chip8.File.Path
import Chip8.SaveState.Format
import Chip8.Ticker

/-! # Sessions

A session is a ticker in front of a person: what is shown, the status line, the
file for saved states, and the keys that wait for their release.

Many terminals report no releases. So a key that was pressed is released by
itself once it has not been reported for a while, and every report puts its
release off again. -/

namespace Chip8

structure Session where
  ticker : Ticker
  /-- The display as of the last frame that was published. -/
  shown : Display
  savePath : String
  status : String
  /-- For every key that waits for its release, when it was last reported. -/
  pending : Vector (Option Nat) 16

/-- How long a key stays down after its last report, in nanoseconds. -/
def releaseDelay : Nat := 50_000_000

/-- The file for the states of a program: its name without extension, in the
    directory for such files. -/
def savePath (directory programPath : String) : String :=
  let stem := (File.Path.stem? programPath.toList).getD ['r', 'o', 'm']
  String.ofList (File.Path.join directory.toList (stem ++ ['.', 'j', 's', 'o', 'n']))

namespace Session

/-- A session that has just begun. -/
def start (ticker : Ticker) (savePath : String) : Session where
  ticker := ticker
  shown := ticker.machine.display
  savePath := savePath
  status := "F5 save  F9 load  Esc quit"
  pending := Vector.replicate 16 none

/-- The session with another machine. -/
def withMachine (s : Session) (m : Machine) : Session :=
  { s with ticker := { s.ticker with machine := m } }

/-! ## Frames -/

/-- What came of one frame. -/
structure Shown where
  result : Except Fault Frame
  session : Session
  dice : Dice
  notices : Array Notice

/-- Runs one frame and publishes it, unless it failed. -/
def frame (s : Session) (dice : Dice) : Shown :=
  let tick := s.ticker.tick dice
  let after := { s with ticker := tick.ticker }
  let after := match tick.result with
    | .ok frame => { after with shown := frame.display }
    | .error _ => after
  ⟨tick.result, after, tick.dice, tick.notices⟩

/-! ## Keys that release themselves -/

/-- Presses a key and notes the time. -/
def hold (s : Session) (now : Nat) (key : Key) : Session :=
  { s.withMachine (s.ticker.machine.setKey key true) with
    pending := s.pending.setIfInBounds key (some now) }

/-- Whether a key that was last reported at some time is to be released. -/
def isDue (now : Nat) (reported : Option Nat) : Bool :=
  match reported with
  | some time => releaseDelay < now - time
  | none => false

/-- Releases a key if it is due. -/
def releaseIfDue (now : Nat) (s : Session) (key : Key) : Session :=
  if isDue now (s.pending.get key) then
    { s.withMachine (s.ticker.machine.setKey key false) with pending := s.pending.setIfInBounds key none }
  else s

/-- Releases the keys that are due. -/
def releaseDue (s : Session) (now : Nat) : Session :=
  (List.finRange 16).foldl (releaseIfDue now) s

/-- The keys that wait for their release, in rising order. -/
def pendingKeys (s : Session) : List Key :=
  (List.finRange 16).filter fun key => (s.pending.get key).isSome

end Session

end Chip8

import Chip8.CommandLine.Launch
import Chip8.Session.Input
import Chip8.Session.View

/-! # The program

The command line on real files and a real terminal. Nothing is decided here:
every step is a definition elsewhere, and its answer is written out.

A session wants a terminal that hands over the keys it has and never waits for
one, as after `stty raw -echo min 0 time 0`. The size of the terminal is read
from its environment. -/

namespace Chip8

/-! ## Files -/

/-- What the operating system says about a failure: its number and a text. -/
def systemAnswer? : IO.Error → Option (UInt32 × String)
  | .alreadyExists _ number text | .interrupted _ number text | .noFileOrDirectory _ number text
  | .invalidArgument _ number text | .permissionDenied _ number text
  | .resourceExhausted _ number text | .inappropriateType _ number text
  | .noSuchThing _ number text | .otherError number text | .resourceBusy number text
  | .resourceVanished number text | .unsupportedOperation number text
  | .hardwareFault number text | .unsatisfiedConstraints number text
  | .illegalOperation number text | .protocolError number text | .timeExpired number text =>
    some (number, text)
  | .unexpectedEof | .userError _ => none

/-- The fault of a failed operation. Some numbers arrive negated. -/
def faultOf (failure : IO.Error) : File.Fault :=
  match systemAnswer? failure with
  | some (number, text) => .ofNumber (min number.toNat (0 - number).toNat) text
  | none => .other (toString failure)

def attempt {α : Type} (action : IO α) : IO (Except File.Fault α) := do
  match ← action.toBaseIO with
  | .ok answer => return .ok answer
  | .error failure => return .error (faultOf failure)

/-- The files of the operating system. -/
def systemFiles : File.Store IO where
  read path := attempt (IO.FS.readBinFile path)
  write path contents := attempt (IO.FS.writeBinFile path contents)
  makeDirectories path := attempt (if path = "" then pure () else IO.FS.createDirAll path)

/-! ## The terminal -/

def sizeFrom (setting : Option String) (otherwise : Nat) : Nat :=
  (setting.bind String.toNat?).getD otherwise

/-- The width and the height of the terminal. -/
def terminalSize : IO (Nat × Nat) := do
  let width := sizeFrom (← IO.getEnv "COLUMNS") Session.leastWidth
  let height := sizeFrom (← IO.getEnv "LINES") Session.leastHeight
  return (width, height)

def write (text : String) : IO Unit := do
  let output ← IO.getStdout
  output.putStr text
  output.flush

/-- Does what events ask for, one after another. -/
def followKeys (s : Session) (now : Nat) : List KeyEvent → IO Session
  | [] => return s
  | event :: more => do
    let (after, _) ← s.onKey systemFiles now event
    followKeys after now more

/-- Follows the keyboard until some time. -/
partial def followUntil (time : Nat) (s : Session) : IO Session := do
  let now ← IO.monoNanosNow
  if time < now then return s
  let input ← IO.getStdin
  let bytes ← input.read 64
  if bytes.isEmpty then IO.sleep 1
  followUntil time (← followKeys s now (keyEvents bytes))

/-- Runs a session frame by frame until it is stopped or a frame fails. -/
partial def runSession (s : Session) (dice : Dice) : IO CommandLine.Report := do
  if s.ticker.stopped then return { code := 0 }
  let start ← IO.monoNanosNow
  let shown := s.frame dice
  match shown.result with
  | .error fault => return .failure "CHIP-8 execution error" fault.messages
  | .ok frame =>
    if frame.beep then write Terminal.bell
    let (width, height) ← terminalSize
    write (shown.session.draw width height).terminalText
    let current := shown.session.releaseDue (← IO.monoNanosNow)
    runSession (← followUntil (start + s.ticker.frameNanos) current) shown.dice

/-- Runs a session on the whole screen. -/
def runOnScreen (s : Session) (dice : Dice) : IO CommandLine.Report := do
  write Terminal.enter
  let report ← runSession s dice
  write Terminal.leave
  return report

/-! ## The command line -/

/-- Writes a report out and answers its code. -/
def finish (report : CommandLine.Report) : IO UInt32 := do
  for line in report.output do IO.println line
  for line in report.errors do IO.eprintln line
  return report.code.toUInt32

def randomSeed : IO UInt64 := do
  let bytes ← IO.getRandomBytes 8
  return bytes.foldl (fun seed byte => seed * 256 + byte.toUInt64) 0

end Chip8

/-- Follows the command line. -/
def main (args : List String) : IO UInt32 := do
  let dice := Chip8.Dice.ofSeed (← Chip8.randomSeed)
  match ← Chip8.CommandLine.launch Chip8.systemFiles dice args with
  | .ended report => Chip8.finish report
  | .session session dice => Chip8.finish (← Chip8.runOnScreen session dice)

import Chip8.CommandLine.Help
import Chip8.CommandLine.Parse
import Chip8.CommandLine.Report
import Chip8.File.Store
import Chip8.Session

/-! # Launching

A command line is read, the log file is made, the settings are judged, the
program is loaded and, if so many frames were asked for, they are run and the
display is printed. Otherwise a session begins. -/

namespace Chip8.CommandLine

/-- What a launch leads to. -/
inductive Launch where
  | ended (report : Report)
  | session (session : Session) (dice : Dice)

/-- Runs frames until one fails. -/
def runFrames (count : Nat) (dice : Dice) (t : Ticker) : Except Fault Ticker :=
  match count with
  | 0 => .ok t
  | count + 1 =>
    let tick := t.tick dice
    match tick.result with
    | .error fault => .error fault
    | .ok _ => runFrames count tick.dice tick.ticker

/-- Runs the frames that were asked for, or begins a session. -/
def proceed (options : Options) (dice : Dice) (t : Ticker) : Launch :=
  match options.frames with
  | none =>
    .session (.start t (savePath options.saveDirectory options.programPath)) dice
  | some count =>
    match runFrames count dice t with
    | .error fault => .ended (.failure "CHIP-8 execution error" fault.messages)
    | .ok t => .ended { code := 0, output := t.machine.display.text.splitOn "\n" }

/-- Loads the program, given what came of reading its file. -/
def withProgram (options : Options) (dice : Dice) (t : Ticker)
    (contents : Except File.Fault ByteArray) : Launch :=
  let outcome := t.machine.loadFile options.programPath contents
  match outcome.result with
  | .error fault => .ended (.failure "Failed to load ROM" fault.messages)
  | .ok () => proceed options dice { t with machine := outcome.machine }

variable {m : Type → Type} [Monad m]

/-- Makes the log file, if there is to be one. It stays empty. -/
def makeLog (options : Options) (files : File.Store m) : m (Except Report Unit) := do
  match options.logFile with
  | none => return .ok ()
  | some path =>
    match ← files.write path ByteArray.empty with
    | .ok () => return .ok ()
    | .error cause =>
      return .error (.failure s!"Failed to create log file {path}" [cause.message])

/-- Follows a command line. -/
def launch (files : File.Store m) (dice : Dice) (words : List String) : m Launch := do
  match Options.ofWords words with
  | .error (.help long) => return .ended { code := 0, output := helpLines long }
  | .error refusal => return .ended { code := 2, errors := [refusal.headline] }
  | .ok options =>
    match ← makeLog options files with
    | .error report => return .ended report
    | .ok () =>
      match Ticker.ofSettings options.settings with
      | .error fault => return .ended (.failure "Invalid emulator configuration" fault.messages)
      | .ok t => return withProgram options dice t (← files.read options.programPath)

end Chip8.CommandLine

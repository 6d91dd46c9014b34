import Chip8.Layout
import Chip8.Text.Hex

/-! # Notices

What operations have to say about themselves, for a log. Notices are answers,
like results: nothing is written anywhere here. -/

namespace Chip8

inductive Level where
  | warn
  | info
  | debug
  | trace
deriving DecidableEq

def Level.label : Level → String
  | .warn => "WARN"
  | .info => "INFO"
  | .debug => "DEBUG"
  | .trace => "TRACE"

inductive Notice where
  | resetting
  | programLoaded (size : Nat)
  | unknownWord (word address : UInt16)
  | saving (pc : UInt16)
  | restoring (pc : UInt16)
  | stopping
  | fileSaved (path : String)
  | fileLoaded (path : String)
deriving DecidableEq

namespace Notice

def level : Notice → Level
  | resetting | saving _ | restoring _ => .debug
  | programLoaded _ | fileSaved _ | fileLoaded _ => .info
  | unknownWord _ _ => .trace
  | stopping => .warn

def message : Notice → String
  | resetting => "Resetting CHIP-8 state"
  | programLoaded size => s!"Loaded {size} byte ROM at {Text.address 3 programStart}"
  | unknownWord word address =>
    s!"Ignoring unknown opcode {Text.address 4 word.toNat} at {Text.address 3 address.toNat}"
  | saving pc => s!"Taking snapshot at PC {Text.address 3 pc.toNat}"
  | restoring pc => s!"Restoring snapshot at PC {Text.address 3 pc.toNat}"
  | stopping => "Stopping emulation"
  | fileSaved path => s!"Saved state to {path}"
  | fileLoaded path => s!"Loaded state from {path}"

/-- A notice as a line of a log. -/
def line (notice : Notice) : String := notice.level.label ++ " " ++ notice.message

end Notice

end Chip8

import Chip8.File.Fault
import Chip8.Json.Fault
import Chip8.Layout
import Chip8.Text.Hex

/-! # Faults

Everything for which an operation on a machine is refused, by cause. The
wording is in one place, `Fault.message`. -/

namespace Chip8

/-- Why a saved state cannot be taken over. -/
inductive SaveFault where
  | malformed (cause : Json.Fault)
  | tooManyCalls (entries : Nat)
  | badPixel (value : UInt8)
deriving DecidableEq

def SaveFault.message : SaveFault → String
  | .malformed cause => cause.message
  | .tooManyCalls entries => s!"stack holds {entries} entries, limit is {callLimit}"
  | .badPixel value => s!"framebuffer pixel value {value.toNat} is neither 0 nor {lit.toNat}"

/-- Why settings do not make a machine that runs. -/
inductive SettingsFault where
  | noFrames
  | tooSlow (instructionsPerSecond frameRate : Nat)
deriving DecidableEq

def SettingsFault.message : SettingsFault → String
  | .noFrames => "frame rate must be greater than zero"
  | .tooSlow speed rate =>
    s!"{speed} opcodes per second is less than one opcode per frame at {rate} fps"

inductive Fault where
  | programTooLarge (size : Nat)
  | programUnreadable (path : String) (cause : File.Fault)
  | addressOutOfRange (address : Nat)
  | stackUnderflow
  | stackOverflow
  | badSave (cause : SaveFault)
  | badSettings (cause : SettingsFault)
deriving DecidableEq

def Fault.message : Fault → String
  | .programTooLarge size =>
    s!"ROM is too large ({size} bytes), max size is {programLimit} bytes"
  | .programUnreadable path _ => s!"Failed to read ROM file {path}"
  | .addressOutOfRange address =>
    s!"Memory access out of bounds at address {Text.address 4 address}"
  | .stackUnderflow =>
    "Stack underflow: attempted to return from a subroutine with empty call stack"
  | .stackOverflow => s!"Stack overflow: more than {callLimit} nested subroutine calls"
  | .badSave cause => s!"Invalid save state: {cause.message}"
  | .badSettings cause => s!"Invalid configuration: {cause.message}"

/-- The messages of a fault and of what caused it, outermost first. -/
def Fault.messages (fault : Fault) : List String :=
  match fault with
  | .programUnreadable _ cause => [fault.message, cause.message]
  | _ => [fault.message]

end Chip8

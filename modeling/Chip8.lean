import Chip8.File.Tree
import Chip8.Main
import Chip8.Memory.Format
import Chip8.Proofs.Json.Number
import Chip8.Proofs.Json.Shape
import Chip8.Proofs.Json.Record
import Chip8.Proofs.SaveState
import Chip8.Proofs.Machine.Execute
import Chip8.Proofs.Requests
import Chip8.Proofs.Savable
import Chip8.Proofs.Machine.Faults
import Chip8.Proofs.Resume
import Chip8.Proofs.Session.Files
import Chip8.Proofs.Session.Keys
import Chip8.Proofs.Session.Course
import Chip8.Proofs.Session.Timeline
import Chip8.Proofs.Session.HeldKeys
import Chip8.Proofs.Session.Reload
import Chip8.Proofs.Session.Reports
import Chip8.Proofs.Calls
import Chip8.Proofs.Batch
import Chip8.Proofs.Json.Grammar
import Chip8.Proofs.Json.String
import Chip8.Proofs.Json.Skip
import Chip8.Proofs.Json.Extent
import Chip8.Proofs.Json.Position
import Chip8.Proofs.Json.Layout
import Chip8.Proofs.Json.Members
import Chip8.Proofs.SaveState.Layout
import Chip8.Proofs.Json.Draft
import Chip8.Proofs.SaveState.Draft
import Chip8.Proofs.Keypad
import Chip8.Proofs.Instruction
import Chip8.Proofs.Frames
import Chip8.Proofs.Machine.Sprite
import Chip8.Proofs.Machine.Periphery
import Chip8.Proofs.Edge
import Chip8.Proofs.Inputs
import Chip8.Proofs.Timers
import Chip8.Proofs.Waiting
import Chip8.Proofs.Machine.Counter
import Chip8.Proofs.Drawing
import Chip8.Proofs.Addresses
import Chip8.Proofs.Footprint
import Chip8.Proofs.Arithmetic
import Chip8.Proofs.NextWord
import Chip8.Proofs.Parity
import Chip8.Proofs.Transfer
import Chip8.Proofs.Restoring
import Chip8.Proofs.Loading
import Chip8.Proofs.Session.Timeout
import Chip8.Proofs.Keypad.Changes
import Chip8.Proofs.Display
import Chip8.Proofs.Decimal.Rounding
import Chip8.Proofs.Pacing
import Chip8.Proofs.File.Path
import Chip8.Proofs.Session.SavePath
import Chip8.Proofs.Memory.Runs
import Chip8.Proofs.Session.StackPanel

import Chip8.Json.Record
import Chip8.Memory

/-! # Memory as a record

A memory on its own is written as a record of one field, the list of its bytes. -/

namespace Chip8.Memory

inductive Field where
  | cells
deriving DecidableEq

def record : Json.Record Field where
  title := "Memory"
  fields := [.cells]
  complete := by intro f; cases f; exact List.mem_singleton.2 rfl
  label | .cells => "data"
  shape | .cells => .exactly memorySize .byte

def toJson (m : Memory) : String :=
  record.write fun
    | .cells => m.cells

def ofJson (text : String) : Except Json.Fault Memory :=
  (record.parse text).map fun row => ⟨row .cells⟩

end Chip8.Memory

import Chip8.Json.Record
import Chip8.SaveState

/-! # Saved states as text

A saved state is written as a record of nine fields. What is read has to be
such a record and a state that can be restored. -/

namespace Chip8.SaveState

inductive Field where
  | memory
  | registers
  | index
  | pc
  | stack
  | delay
  | sound
  | display
  | keypad
deriving DecidableEq

def record : Json.Record Field where
  title := "Snapshot"
  fields := [.memory, .registers, .index, .pc, .stack, .delay, .sound, .display, .keypad]
  complete := by intro f; cases f <;> decide
  label
    | .memory => "memory"
    | .registers => "v"
    | .index => "i"
    | .pc => "pc"
    | .stack => "stack"
    | .delay => "delay_timer"
    | .sound => "sound_timer"
    | .display => "framebuffer"
    | .keypad => "keys"
  shape
    | .memory => .exactly memorySize .byte
    | .registers => .exactly 16 .byte
    | .index => .one .word
    | .pc => .one .word
    | .stack => .many .word
    | .delay => .one .byte
    | .sound => .one .byte
    | .display => .exactly displaySize .byte
    | .keypad => .exactly 16 .flag

/-- The fields of a state. -/
def toRow (s : SaveState) : record.Row
  | .memory => s.memory.cells
  | .registers => s.registers
  | .index => s.index
  | .pc => s.pc
  | .stack => s.stack
  | .delay => s.delay
  | .sound => s.sound
  | .display => s.display.pixels
  | .keypad => s.keypad.down

/-- The state with the given fields. -/
def ofRow (row : record.Row) : SaveState where
  memory := ⟨row .memory⟩
  registers := row .registers
  index := row .index
  pc := row .pc
  stack := row .stack
  delay := row .delay
  sound := row .sound
  display := ⟨row .display⟩
  keypad := ⟨row .keypad⟩

def toJson (s : SaveState) : String := record.write s.toRow

/-- The state that a text holds. -/
def ofJson (text : String) : Except Fault SaveState :=
  match record.parse text with
  | .error cause => .error (.badSave (.malformed cause))
  | .ok row =>
    match (ofRow row).fault? with
    | some fault => .error (.badSave fault)
    | none => .ok (ofRow row)

end Chip8.SaveState

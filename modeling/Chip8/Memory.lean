import Chip8.Fault
import Chip8.Glyphs

/-! # Memory

4096 bytes, read and written one by one or in runs. A run is taken or written
as a whole or not at all, and a run that does not fit reports the lowest address
of it that lies outside, or its own address when it starts there. -/

namespace Chip8

structure Memory where
  cells : Vector UInt8 memorySize
deriving DecidableEq

namespace Memory

/-- Memory before a program is loaded: the glyphs, and zeros above them. -/
def fresh : Memory :=
  ⟨Vector.ofFn fun a => if h : a.val < Glyphs.size then Glyphs.bytes[a.val] else 0⟩

/-- The byte at an address. -/
def read (m : Memory) (address : Nat) : Except Fault UInt8 :=
  if h : address < memorySize then .ok m.cells[address]
  else .error (.addressOutOfRange address)

/-- Puts a byte at an address. -/
def write (m : Memory) (address : Nat) (byte : UInt8) : Except Fault Memory :=
  if h : address < memorySize then .ok ⟨m.cells.set address byte⟩
  else .error (.addressOutOfRange address)

/-- The end of the `length` bytes from `address` on. Ends have 64 bits, and a sum
    that does not fit gives the highest of them. -/
def runEnd (address length : Nat) : Nat := min (address + length) (UInt64.size - 1)

/-- Whether the `length` bytes from `address` on lie inside. An empty run may
    stand at the very end, but no further. -/
def inside (address length : Nat) : Bool := runEnd address length ≤ memorySize

/-- The address that a run outside of memory reports. -/
def outsideFault (address : Nat) : Fault := .addressOutOfRange (max address memorySize)

/-- The `length` bytes from `address` on. -/
def slice (m : Memory) (address length : Nat) : Except Fault (List UInt8) :=
  if inside address length then .ok (m.cells.extract address (runEnd address length)).toList
  else .error (outsideFault address)

/-- Cells with bytes put one after another from `address` on. -/
def place (cells : Vector UInt8 memorySize) (address : Nat) :
    List UInt8 → Vector UInt8 memorySize
  | [] => cells
  | byte :: bytes => place (cells.setIfInBounds address byte) (address + 1) bytes

/-- Puts bytes one after another from `address` on. -/
def writeBytes (m : Memory) (address : Nat) (bytes : List UInt8) : Except Fault Memory :=
  if inside address bytes.length then .ok ⟨place m.cells address bytes⟩
  else .error (outsideFault address)

/-- Puts a program where programs start. -/
def load (m : Memory) (program : List UInt8) : Except Fault Memory :=
  if programLimit < program.length then .error (.programTooLarge program.length)
  else .ok ⟨place m.cells programStart program⟩

/-- A memory in a word: its contents would fill a page. -/
def summary (_ : Memory) : String := "Memory \x7b size: 4096, .. \x7d"

end Memory

end Chip8

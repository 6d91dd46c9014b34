import Chip8.Nibble

/-! # Keypad

Sixteen keys that are down or up. A keyboard stands in for them: four keys of
each of four rows, in either case. -/

namespace Chip8

/-- The number of a key. -/
abbrev Key := Nibble

/-- The symbols that stand for keys, row by row, four to a row. -/
def keyRows : List (List (Char × Key)) := [
  [('1', 0x1), ('2', 0x2), ('3', 0x3), ('4', 0xC)],
  [('q', 0x4), ('w', 0x5), ('e', 0x6), ('r', 0xD)],
  [('a', 0x7), ('s', 0x8), ('d', 0x9), ('f', 0xE)],
  [('z', 0xA), ('x', 0x0), ('c', 0xB), ('v', 0xF)]]

/-- All symbols with their keys. -/
def keyTable : List (Char × Key) := keyRows.flatten

/-- The key of a symbol. Only letters of ASCII have two cases. -/
def keyOf? (symbol : Char) : Option Key :=
  (keyTable.find? fun (c, _) => c == symbol.toLower).map (·.2)

structure Keypad where
  down : Vector Bool 16
deriving DecidableEq

namespace Keypad

/-- No key is down. -/
def released : Keypad := ⟨Vector.replicate 16 false⟩

def set (p : Keypad) (key : Key) (down : Bool) : Keypad := ⟨p.down.set key down⟩

/-- Presses the key of a symbol, if it has one. -/
def press (p : Keypad) (symbol : Char) : Keypad :=
  match keyOf? symbol with
  | some key => p.set key true
  | none => p

/-- Releases the key of a symbol, if it has one. -/
def release (p : Keypad) (symbol : Char) : Keypad :=
  match keyOf? symbol with
  | some key => p.set key false
  | none => p

/-- Whether the key of a number is down. There are no keys above 15. -/
def isDown (p : Keypad) (number : UInt8) : Bool :=
  if h : number.toNat < 16 then p.down[number.toNat] else false

/-- The keys that are down, in rising order. -/
def pressed (p : Keypad) : List Key := (List.finRange 16).filter fun key => p.down[key]

/-- The lowest key that is down. -/
def lowest? (p : Keypad) : Option Key := (List.finRange 16).find? fun key => p.down[key]

end Keypad

end Chip8

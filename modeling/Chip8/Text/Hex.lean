/-! # Padded numbers

Addresses and bytes are shown in upper-case hexadecimal, padded with zeros on
the left to a least width. Depths are shown in decimal, padded with blanks. -/

namespace Chip8.Text

/-- `n` in upper-case hexadecimal with at least `width` digits. -/
def hex (width n : Nat) : String :=
  String.ofList (((Nat.toDigits 16 n).map Char.toUpper).leftpad width '0')

/-- `n` as `hex` shows it, after the mark `0x`. -/
def address (width n : Nat) : String := "0x" ++ hex width n

/-- `n` in decimal, right-aligned in at least `width` columns. -/
def rightAligned (width n : Nat) : String :=
  String.ofList ((Nat.toDigits 10 n).leftpad width ' ')

end Chip8.Text

/-! # Ranges of characters

The properties of characters that follow from no rule are kept as tables of
ranges. A table is in rising order and its ranges are apart, so halving finds
the only range that may hold a character. -/

namespace Chip8.Text

/-- Ranges of code points, both ends included. -/
abbrev Ranges := Array (Nat × Nat)

namespace Ranges

/-- Whether one of the ranges from `low` up to below `high` holds a number. -/
def search (ranges : Ranges) (n low high : Nat) : Bool :=
  if low < high then
    let middle := (low + high) / 2
    let (first, last) := ranges.getD middle (0, 0)
    if n < first then ranges.search n low middle
    else if last < n then ranges.search n (middle + 1) high
    else true
  else false
termination_by high - low

/-- Whether a character lies in one of the ranges. -/
def has (ranges : Ranges) (c : Char) : Bool := ranges.search c.toNat 0 ranges.size

end Ranges

end Chip8.Text

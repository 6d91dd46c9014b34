/-! # Binary64 magnitudes

Every finite binary64 number without its sign is a whole number of units of
2^-1074, the least positive one. A magnitude is that number of units, so the
arithmetic here is exact and rounding happens in one place, `nearest`. -/

namespace Chip8.Decimal

/-- `num / den` rounded to the nearest whole number, a half to the even one. -/
def roundDiv (num den : Nat) : Nat :=
  let q := num / den
  let twice := 2 * (num % den)
  if twice > den ∨ (twice = den ∧ q % 2 = 1) then q + 1 else q

/-- How many units of 2^-1074 make up one. -/
def unitsPerOne : Nat := 1 <<< 1074

/-- The number of units from which on a magnitude is infinite. -/
def unitLimit : Nat := 1 <<< 2098

/-- A magnitude, counted in units of 2^-1074. -/
structure Binary64 where
  units : Nat
deriving DecidableEq

namespace Binary64

/-- The spacing of the magnitudes around `units`: a mantissa has 53 bits. -/
def spacing (units : Nat) : Nat := 1 <<< (units.log2 - 52)

/-- The magnitude nearest to `num / den`, a tie going to the even mantissa.
    A value too large for the format becomes a count of units above its limit. -/
def nearest (num den : Nat) : Binary64 :=
  let gap := spacing (num * unitsPerOne / den)
  ⟨roundDiv (num * unitsPerOne) (den * gap) * gap⟩

/-- A rounded result stands for infinity when it reaches the limit. -/
def isInfinite (x : Binary64) : Bool := unitLimit ≤ x.units

/-- The magnitude nearest to a whole number. -/
def ofNat (n : Nat) : Binary64 := nearest n 1

/-- The magnitude nearest to a power of ten. -/
def powerOfTen (e : Nat) : Binary64 := ofNat (Nat.pow 10 e)

def mul (x y : Binary64) : Binary64 :=
  nearest (x.units * y.units) (unitsPerOne * unitsPerOne)

def div (x y : Binary64) : Binary64 := nearest x.units y.units

end Binary64

end Chip8.Decimal

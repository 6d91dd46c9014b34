import Chip8.Decimal.Binary64

/-! # Shortest decimals

The decimal shown for a magnitude has the fewest digits that still round back
to it. On the grid of `n`-digit decimals only the two neighbours of the
magnitude can be the nearest ones, so each grid takes two tests, and the first
grid with a hit wins. -/

namespace Chip8.Decimal

/-- A decimal `digits * 10 ^ exponent`. -/
structure Scientific where
  digits : Nat
  exponent : Int
deriving DecidableEq

/-- A power of ten as a ratio. -/
def tenTo (e : Int) : Nat × Nat :=
  if 0 ≤ e then (Nat.pow 10 e.toNat, 1) else (1, Nat.pow 10 (-e).toNat)

namespace Binary64

/-- The distance to the next magnitude below, which is halved at the foot of a
    binade. -/
def gapBelow (units : Nat) : Nat :=
  let gap := spacing units
  if units = gap <<< 52 ∧ 1 < gap then gap / 2 else gap

/-- Whether `num / den` units round to `x`. The ends of the interval belong to
    it when the mantissa is even, because ties go to even mantissas. -/
def covers (x : Binary64) (num den : Nat) : Bool :=
  let u := x.units
  let low := (2 * u - gapBelow u) * den
  let high := (2 * u + spacing u) * den
  if (u / spacing u) % 2 = 0 then low ≤ 2 * num ∧ 2 * num ≤ high
  else low < 2 * num ∧ 2 * num < high

/-- The power of ten of the leading digit of a positive magnitude. -/
def leadingPower (x : Binary64) : Int :=
  (Nat.toDigits 10 (x.units * Nat.pow 10 400 / unitsPerOne)).length - 401

/-- The neighbour of `x` on the grid `10 ^ e` that rounds to `x`: of two, the
    nearer, and the even one of two equally near. -/
def onGrid (x : Binary64) (e : Int) : Option Scientific :=
  let (up, down) := tenTo e
  let whole := unitsPerOne * up
  let below := x.units * down / whole
  let rest := x.units * down % whole
  let hit (c : Nat) : Bool := x.covers (c * whole) down
  let nearer :=
    if 2 * rest < whole then below
    else if whole < 2 * rest then below + 1
    else if below % 2 = 0 then below else below + 1
  if hit below && hit (below + 1) then some ⟨nearer, e⟩
  else if hit below then some ⟨below, e⟩
  else if hit (below + 1) then some ⟨below + 1, e⟩
  else none

/-- The shortest decimal that rounds to a positive magnitude. Seventeen digits
    are always enough. -/
def shortest (x : Binary64) : Scientific :=
  let lead := x.leadingPower
  ((List.range 17).findSome? fun (n : Nat) => x.onGrid (lead - n)).getD ⟨0, 0⟩

end Binary64

/-- The digits of a decimal without trailing zeros, and the power of ten just
    above its leading digit. -/
def Scientific.significant (d : Scientific) : List Char × Int :=
  let all := Nat.toDigits 10 d.digits
  let cut := (all.reverse.dropWhile (· == '0')).reverse
  (cut, all.length + d.exponent)

/-- A decimal in words of text: positional from 1e-5 up to below 1e16, always
    with a point, and otherwise with one leading digit and a signed exponent. -/
def Scientific.text (d : Scientific) : String :=
  let (digits, point) := d.significant
  let n : Int := digits.length
  let zeros (k : Int) : List Char := List.replicate k.toNat '0'
  if n ≤ point ∧ point ≤ 16 then
    String.ofList (digits ++ zeros (point - n) ++ ['.', '0'])
  else if 0 < point ∧ point ≤ 16 then
    String.ofList (digits.take point.toNat ++ '.' :: digits.drop point.toNat)
  else if -5 < point ∧ point ≤ 0 then
    String.ofList ('0' :: '.' :: (zeros (-point) ++ digits))
  else
    let mantissa := match digits with
      | first :: second :: more => first :: '.' :: second :: more
      | short => short
    String.ofList mantissa ++ (if 0 < point then "e+" else "e") ++ toString (point - 1)

/-- The text of a magnitude with its sign. -/
def Binary64.text (negative : Bool) (x : Binary64) : String :=
  (if negative then "-" else "") ++ if x.units = 0 then "0.0" else x.shortest.text

end Chip8.Decimal

-- SUMMARY: Scalars are read back from their written form, as one value and as an item.
import Chip8.Json.Shape
import Chip8.Proofs.Json.Number

/-! # Reading scalars back

Each scalar is read back from what is written for it. A number needs to know that
the text after it does not go on with it. A list of any size takes one item after the
other, until it finds its end. -/

namespace Chip8.Json

@[simp] theorem skipBlanks_cons {c : Char} {s : List Char} (h : isBlank c = false) :
    skipBlanks (c :: s) = c :: s := by
  simp [skipBlanks, h]

/-! ## Scalars -/

theorem isBlank_of_isDigit {c : Char} (h : c.isDigit = true) : isBlank c = false := by
  simp only [isBlank, Bool.or_eq_false_iff, beq_eq_false_iff_ne]
  refine ⟨⟨⟨?_, ?_⟩, ?_⟩, ?_⟩ <;> rintro rfl <;> exact absurd h (by decide)

/-- The digits of a number below a limit are read as that number. -/
theorem readNatural_toDigits {n limit : Nat} {rest : List Char} (hn : n ≤ limit)
    (hlimit : limit ≤ significandLimit) (hrest : endsNumber rest = true) (expected : String) :
    readNatural limit expected (Nat.toDigits 10 n ++ rest) = .ok (n, rest) := by
  have hread := readNumber_toDigits (Nat.le_trans hn hlimit) hrest
  obtain ⟨c, digits, hdigits, hc⟩ := toDigits_eq_cons n
  rw [hdigits, List.cons_append] at hread ⊢
  rw [readNatural, skipBlanks_cons (isBlank_of_isDigit hc)]
  simp only [hc, or_true, if_true, hread]
  rw [if_pos ⟨Int.natCast_nonneg n, Int.ofNat_le.mpr hn⟩, Int.toNat_natCast]

namespace Scalar

/-- A scalar is read back from its written form. -/
theorem read_write (k : Scalar) (x : k.Value) {rest : List Char} (hrest : endsNumber rest = true) :
    k.read ((k.write x).toList ++ rest) = .ok (x, rest) := by
  cases k with
  | byte =>
    have hx : x.toNat ≤ 255 := Nat.le_of_lt_succ x.toNat_lt
    simp [read, write, readNatural_toDigits hx (by decide) hrest, Except.map]
  | word =>
    have hx : x.toNat ≤ 65535 := Nat.le_of_lt_succ x.toNat_lt
    simp [read, write, readNatural_toDigits hx (by decide) hrest, Except.map]
  | flag =>
    cases x with
    | false => simp [read, write, readFlag, isBlank, readWord, Except.map]
    | true => simp [read, write, readFlag, isBlank, readWord, Except.map]

end Scalar

/-! ## Items -/

theorem readMany_of_none {k : Scalar} {sofar : List k.Value} {s : List Char}
    (hnone : nextItem sofar.isEmpty s = .ok none) :
    readMany k sofar s = .ok (sofar.reverse, s) := by
  rw [readMany]
  split
  · next heq => simp [hnone] at heq
  · rfl
  · next heq => simp [hnone] at heq

theorem readMany_item {k : Scalar} {sofar : List k.Value} {first : Bool}
    {s item after : List Char} {x : k.Value} (hfirst : sofar.isEmpty = first)
    (hnext : nextItem first s = .ok (some item)) (hread : k.read item = .ok (x, after)) :
    readMany k sofar s = readMany k (x :: sofar) after := by
  subst hfirst
  rw [readMany]
  split
  · next heq => simp [hnext] at heq
  · next heq => simp [hnext] at heq
  · next heq =>
    simp only [hnext, Except.ok.injEq, Option.some.injEq] at heq
    subst heq
    split
    · next heq => simp [hread] at heq
    · next heq =>
      simp only [hread, Except.ok.injEq, Prod.mk.injEq] at heq
      obtain ⟨rfl, rfl⟩ := heq
      rfl

end Chip8.Json

-- SUMMARY: Quotients are rounded to whole numbers and to binary64, and one after the other still gives a nearest whole number.
import Chip8.Decimal.Binary64
import Mathlib.Tactic.Ring

/-! # Rounding

A quotient is rounded to a nearest whole number, and to binary64 by rounding it to a
mantissa in units of the last of its 53 bits. When a multiple of the rounded quotient is
rounded once more, to a whole number, both errors add up. As long as the multiple is well
below 53 bits, their sum is too small to miss the whole numbers nearest to it. -/

namespace Chip8.Decimal

variable {num den q rest scale : Nat}

/-- A whole number is nearest to `num / den`, and if there are two, it is the even one. -/
structure Rounds (num den q : Nat) : Prop where
  nearest : 2 * (q * den - num : Int).natAbs ≤ den
  even : 2 * (q * den - num : Int).natAbs = den → q % 2 = 0

theorem roundDiv_of_rest (h : rest < den) :
    roundDiv (q * den + rest) den =
      if 2 * rest > den ∨ (2 * rest = den ∧ q % 2 = 1) then q + 1 else q := by
  have hpos : 0 < den := Nat.zero_lt_of_lt h
  have hdiv : (q * den + rest) / den = q := by
    rw [Nat.add_comm, Nat.add_mul_div_right _ _ hpos, Nat.div_eq_of_lt h, Nat.zero_add]
  have hmod : (q * den + rest) % den = rest := by
    rw [Nat.add_comm, Nat.add_mul_mod_self_right, Nat.mod_eq_of_lt h]
  rw [roundDiv, hdiv, hmod]

theorem rounds_roundDiv (num : Nat) (h : 0 < den) : Rounds num den (roundDiv num den) := by
  obtain ⟨q, rest, hrest, rfl⟩ : ∃ q rest, rest < den ∧ num = q * den + rest :=
    ⟨num / den, num % den, Nat.mod_lt num h, (Nat.div_add_mod' num den).symm⟩
  have hnext : ((q + 1 : Nat) * den : Int) = q * den + den := by
    push_cast
    ring
  rw [roundDiv_of_rest hrest]
  split
  · constructor <;> rw [hnext] <;> push_cast <;> omega
  · constructor <;> push_cast <;> omega

namespace Binary64

variable {x : Binary64}

theorem two_pow_le_unitsPerOne {k : Nat} (h : k ≤ 1074) : 2 ^ k ≤ unitsPerOne := by
  have hpow : ∀ n, k ≤ n → 2 ^ k ≤ 1 <<< n := by
    intro n hn
    rw [Nat.one_shiftLeft]
    exact Nat.pow_le_pow_right (by decide) hn
  exact hpow 1074 h

theorem unitsPerOne_pos : 0 < unitsPerOne := two_pow_le_unitsPerOne (Nat.zero_le 1074)

/-- A magnitude is `num / den` rounded to binary64: the exponent leaves 53 bits in front of
    the point, or fewer if it is the least there is, and these are rounded to a mantissa. -/
def IsQuotient (num den : Nat) (x : Binary64) : Prop :=
  ∃ mantissa exponent, x.units = mantissa * 2 ^ exponent ∧
    Rounds (num * unitsPerOne) (den * 2 ^ exponent) mantissa ∧
    num * unitsPerOne < 2 ^ 53 * (den * 2 ^ exponent) ∧
    (exponent = 0 ∨ 2 ^ 52 * (den * 2 ^ exponent) ≤ num * unitsPerOne)

theorem isQuotient_nearest (num : Nat) (h : 0 < den) : (nearest num den).IsQuotient num den := by
  have hspacing (units : Nat) : spacing units = 2 ^ (units.log2 - 52) := Nat.one_shiftLeft _
  generalize hunits : num * unitsPerOne / den = units
  refine ⟨roundDiv (num * unitsPerOne) (den * 2 ^ (units.log2 - 52)), units.log2 - 52, ?_,
    rounds_roundDiv _ (Nat.mul_pos h (Nat.two_pow_pos _)), ?_, ?_⟩
  · simp only [nearest, hunits, hspacing]
  · have hlt : units < 2 ^ (53 + (units.log2 - 52)) :=
      Nat.lt_of_lt_of_le Nat.lt_log2_self (Nat.pow_le_pow_right (by decide) (by omega))
    calc num * unitsPerOne < 2 ^ (53 + (units.log2 - 52)) * den :=
          Nat.lt_mul_of_div_lt (hunits ▸ hlt) h
      _ = 2 ^ 53 * (den * 2 ^ (units.log2 - 52)) := by rw [Nat.pow_add]; ring
  · rcases Nat.lt_or_ge units.log2 52 with hsmall | hlarge
    · exact .inl (Nat.sub_eq_zero_of_le (Nat.le_of_lt hsmall))
    · right
      have hne : units ≠ 0 := by
        rintro rfl
        exact absurd hlarge (by decide)
      have hle : 2 ^ (52 + (units.log2 - 52)) ≤ units := by
        rw [Nat.add_sub_cancel' hlarge]
        exact Nat.log2_self_le hne
      calc 2 ^ 52 * (den * 2 ^ (units.log2 - 52)) = 2 ^ (52 + (units.log2 - 52)) * den := by
            rw [Nat.pow_add]
            ring
        _ ≤ num * unitsPerOne := (Nat.le_div_iff_mul_le h).1 (hunits ▸ hle)

/-- The unit of the last bit of a mantissa is small against one, also after it was multiplied. -/
theorem spacing_lt_unitsPerOne {exponent : Nat} (hnum : num * scale < 2 ^ 52)
    (hden : den * scale < unitsPerOne)
    (h : exponent = 0 ∨ 2 ^ 52 * (den * 2 ^ exponent) ≤ num * unitsPerOne) :
    scale * (den * 2 ^ exponent) < unitsPerOne := by
  rcases h with rfl | hle
  · rwa [Nat.pow_zero, Nat.mul_one, Nat.mul_comm]
  · refine Nat.lt_of_mul_lt_mul_left (a := 2 ^ 52) ?_
    calc 2 ^ 52 * (scale * (den * 2 ^ exponent)) = scale * (2 ^ 52 * (den * 2 ^ exponent)) := by
          ring
      _ ≤ scale * (num * unitsPerOne) := Nat.mul_le_mul_left scale hle
      _ = num * scale * unitsPerOne := by ring
      _ < 2 ^ 52 * unitsPerOne := Nat.mul_lt_mul_of_pos_right hnum unitsPerOne_pos

/-- A multiple of a rounded quotient, rounded to a whole number, is one nearest to the same
    multiple of the quotient itself. -/
theorem IsQuotient.nearest_multiple (hx : x.IsQuotient num den) (hnum : num * scale < 2 ^ 52)
    (hden : den * scale < unitsPerOne) (hq : Rounds (x.units * scale) unitsPerOne q) :
    2 * (q * den - num * scale : Int).natAbs ≤ den := by
  obtain ⟨mantissa, exponent, hunits, hmantissa, -, hexponent⟩ := hx
  have hspacing := spacing_lt_unitsPerOne hnum hden hexponent
  have hfirst := hmantissa.nearest
  have hsecond := hq.nearest
  have hsplit : (q * den - num * scale : Int) * unitsPerOne =
      den * (q * unitsPerOne - (x.units * scale : Nat)) +
        scale * (mantissa * (den * 2 ^ exponent : Nat) - (num * unitsPerOne : Nat)) := by
    rw [hunits]
    push_cast
    ring
  generalize (q * unitsPerOne - (x.units * scale : Nat) : Int) = second at hsecond hsplit
  generalize (mantissa * (den * 2 ^ exponent : Nat) - (num * unitsPerOne : Nat) : Int) = first
    at hfirst hsplit
  refine Nat.le_of_lt_succ (Nat.lt_of_mul_lt_mul_right (a := unitsPerOne) ?_)
  calc 2 * (q * den - num * scale : Int).natAbs * unitsPerOne
      = 2 * ((q * den - num * scale : Int) * unitsPerOne).natAbs := by
        rw [Int.natAbs_mul, Int.natAbs_natCast, Nat.mul_assoc]
    _ ≤ 2 * (den * second.natAbs + scale * first.natAbs) := by
        rw [hsplit]
        refine Nat.mul_le_mul_left 2 (Nat.le_trans (Int.natAbs_add_le _ _) ?_)
        rw [Int.natAbs_mul, Int.natAbs_mul, Int.natAbs_natCast, Int.natAbs_natCast]
    _ = den * (2 * second.natAbs) + scale * (2 * first.natAbs) := by ring
    _ ≤ den * unitsPerOne + scale * (den * 2 ^ exponent) :=
        Nat.add_le_add (Nat.mul_le_mul_left den hsecond) (Nat.mul_le_mul_left scale hfirst)
    _ < den * unitsPerOne + unitsPerOne := Nat.add_lt_add_left hspacing _
    _ = (den + 1) * unitsPerOne := (Nat.succ_mul den unitsPerOne).symm

end Binary64

end Chip8.Decimal

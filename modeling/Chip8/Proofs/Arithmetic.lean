-- SUMMARY: Arithmetic on registers is exact, whichever registers its operands are.
import Chip8.Proofs.Machine.Registers
import Chip8.Proofs.Machine.Step

/-! # Exact arithmetic

Sums, differences and shifts keep eight bits of their result in VX, and the flag in VF
is what these bits leave out: with both of them the result is told in numbers. The
operands are the registers as they were before, so VX, VY and VF may be the same ones;
where VX is VF, the flag is what stays. -/

namespace Chip8

namespace Arithmetic

/-! ## Results and flags in numbers -/

/-- The carry of a sum. -/
theorem add_balance (a b : UInt8) :
    256 * (decide (256 ≤ a.toNat + b.toNat)).toNat + (a + b).toNat = a.toNat + b.toNat := by
  have ha := a.toNat_lt
  have hb := b.toNat_lt
  rw [UInt8.toNat_add]
  by_cases hcarry : 256 ≤ a.toNat + b.toNat
  · rw [decide_eq_true hcarry, Bool.toNat_true]
    omega
  · rw [decide_eq_false hcarry, Bool.toNat_false]
    omega

/-- A difference borrows unless its flag is set. -/
theorem sub_balance (a b : UInt8) :
    (a - b).toNat + b.toNat = a.toNat + 256 * (1 - (decide (b ≤ a)).toNat) := by
  have ha := a.toNat_lt
  have hb := b.toNat_lt
  rw [UInt8.toNat_sub]
  by_cases hle : b ≤ a
  · have hle' := UInt8.le_iff_toNat_le.1 hle
    rw [decide_eq_true hle, Bool.toNat_true]
    omega
  · have hlt : ¬b.toNat ≤ a.toNat := fun h => hle (UInt8.le_iff_toNat_le.2 h)
    rw [decide_eq_false hle, Bool.toNat_false]
    omega

/-- The lowest bit of a byte tells whether it is odd. -/
theorem lowest_bit_iff (a : UInt8) : (a &&& 1 == 1) = true ↔ a.toNat % 2 = 1 := by
  rw [beq_iff_eq, ← UInt8.toNat_inj, UInt8.toNat_and]
  exact (Nat.and_one_is_mod a.toNat).symm ▸ Iff.rfl

theorem shiftRight_balance (a : UInt8) :
    2 * (a >>> 1).toNat + (a &&& 1 == 1).toNat = a.toNat := by
  have hhalf : (a >>> 1).toNat = a.toNat / 2 := by
    rw [UInt8.toNat_shiftRight]
    exact Nat.shiftRight_eq_div_pow a.toNat 1
  rw [hhalf]
  cases hodd : a &&& 1 == 1 with
  | true =>
    have hone := (lowest_bit_iff a).1 hodd
    rw [Bool.toNat_true]
    omega
  | false =>
    have hzero : ¬a.toNat % 2 = 1 := fun hone => Bool.false_ne_true (hodd ▸ (lowest_bit_iff a).2 hone)
    rw [Bool.toNat_false]
    omega

theorem shiftLeft_balance (a : UInt8) :
    256 * (decide (128 ≤ a)).toNat + (a <<< 1).toNat = 2 * a.toNat := by
  have ha := a.toNat_lt
  have hdouble : (a <<< 1).toNat = 2 * a.toNat % 256 := by
    rw [UInt8.toNat_shiftLeft, Nat.mul_comm]
    exact congrArg (· % 256) (Nat.shiftLeft_eq a.toNat 1)
  rw [hdouble]
  by_cases hhigh : 128 ≤ a
  · have hhigh' : 128 ≤ a.toNat := UInt8.le_iff_toNat_le.1 hhigh
    rw [decide_eq_true hhigh, Bool.toNat_true]
    omega
  · have hlow : ¬128 ≤ a.toNat := fun h => hhigh (UInt8.le_iff_toNat_le.2 h)
    rw [decide_eq_false hhigh, Bool.toNat_false]
    omega

end Arithmetic

namespace Machine

variable {m : Machine} {value : UInt8} {flag : Bool} {x y : Register} {operation : Arithmetic}

/-! ## Registers -/

/-- The flag is written last, so it is in VF even where VF is VX. -/
theorem flag_of_apply (h : operation.apply (m.register x) (m.register y) = (value, some flag)) :
    ((m.executeArithmetic x y operation).register 0xF).toNat = flag.toNat := by
  rw [executeArithmetic_of_flag h, setFlag_register]
  cases flag <;> rfl

theorem result_of_apply (h : operation.apply (m.register x) (m.register y) = (value, some flag))
    (hx : x ≠ 0xF) : (m.executeArithmetic x y operation).register x = value := by
  rw [executeArithmetic_of_flag h, setFlag_register_of_ne _ _ hx, register_setRegister]

theorem result_of_apply_no_flag
    (h : operation.apply (m.register x) (m.register y) = (value, none)) :
    (m.executeArithmetic x y operation).register x = value := by
  rw [executeArithmetic_of_no_flag h, register_setRegister]

/-- Whichever registers X and Y are, the flag of an operation that has one is 0 or 1 and
    tells what its condition was for the operands before; unless X is F, result and flag
    together are exact. The operations without a flag leave VF alone unless X is F. No
    operation writes any other register. -/
theorem arithmetic_exact (m : Machine) (byte : UInt8) (x y : Register) :
    let a := (m.register x).toNat
    let b := (m.register y).toNat
    let after := fun operation => (m.execute byte (.arithmetic x y operation)).machine
    let r := fun operation => ((after operation).register x).toNat
    let f := fun operation => ((after operation).register 0xF).toNat
    (∀ operation, (m.execute byte (.arithmetic x y operation)).result = .ok .proceed) ∧
      (∀ operation, operation.flags = true → f operation = 0 ∨ f operation = 1) ∧
      (f .add = 1 ↔ 256 ≤ a + b) ∧
      (f .subtract = 1 ↔ b ≤ a) ∧
      (f .subtractFrom = 1 ↔ a ≤ b) ∧
      (f .shiftRight = 1 ↔ a % 2 = 1) ∧
      (f .shiftLeft = 1 ↔ 128 ≤ a) ∧
      (x ≠ 0xF →
        256 * f .add + r .add = a + b ∧
        r .subtract + b = a + 256 * (1 - f .subtract) ∧
        r .subtractFrom + a = b + 256 * (1 - f .subtractFrom) ∧
        2 * r .shiftRight + f .shiftRight = a ∧
        256 * f .shiftLeft + r .shiftLeft = 2 * a) ∧
      (r .copy = b ∧ r .or = a ||| b ∧ r .and = a &&& b ∧ r .xor = a ^^^ b) ∧
      (∀ operation, operation.flags = false → x ≠ 0xF →
        (after operation).register 0xF = m.register 0xF) ∧
      ∀ operation k, k ≠ x → k ≠ 0xF → (after operation).register k = m.register k := by
  intro a b after r f
  have hadd : f .add = (decide (256 ≤ a + b)).toNat := flag_of_apply rfl
  have hsub : f .subtract = (decide (m.register y ≤ m.register x)).toNat := flag_of_apply rfl
  have hfrom : f .subtractFrom = (decide (m.register x ≤ m.register y)).toNat := flag_of_apply rfl
  have hright : f .shiftRight = (m.register x &&& 1 == 1).toNat := flag_of_apply rfl
  have hleft : f .shiftLeft = (decide (128 ≤ m.register x)).toNat := flag_of_apply rfl
  refine ⟨fun _ => rfl, ?_, ?_, ?_, ?_, ?_, ?_, ?_, ?_, ?_, ?_⟩
  · intro operation hflags
    obtain ⟨value, flag, happly⟩ := apply_of_flags hflags (m.register x) (m.register y)
    have hflag : f operation = flag.toNat := flag_of_apply happly
    rw [hflag]
    cases flag with
    | false => exact .inl rfl
    | true => exact .inr rfl
  · rw [hadd, Bool.toNat_eq_one, decide_eq_true_iff]
  · rw [hsub, Bool.toNat_eq_one, decide_eq_true_iff]
    exact UInt8.le_iff_toNat_le
  · rw [hfrom, Bool.toNat_eq_one, decide_eq_true_iff]
    exact UInt8.le_iff_toNat_le
  · rw [hright, Bool.toNat_eq_one]
    exact Arithmetic.lowest_bit_iff (m.register x)
  · rw [hleft, Bool.toNat_eq_one, decide_eq_true_iff]
    exact UInt8.le_iff_toNat_le
  · intro hx
    have hresult (operation : Arithmetic) {value : UInt8} {flag : Bool}
        (h : operation.apply (m.register x) (m.register y) = (value, some flag)) :
        r operation = value.toNat := congrArg UInt8.toNat (result_of_apply h hx)
    rw [hadd, hsub, hfrom, hright, hleft, hresult .add rfl, hresult .subtract rfl,
      hresult .subtractFrom rfl, hresult .shiftRight rfl, hresult .shiftLeft rfl]
    exact ⟨Arithmetic.add_balance _ _, Arithmetic.sub_balance _ _, Arithmetic.sub_balance _ _,
      Arithmetic.shiftRight_balance _, Arithmetic.shiftLeft_balance _⟩
  · have hresult {operation : Arithmetic} {value : UInt8}
        (h : operation.apply (m.register x) (m.register y) = (value, none)) :
        r operation = value.toNat := congrArg UInt8.toNat (result_of_apply_no_flag h)
    refine ⟨hresult rfl, ?_, ?_, ?_⟩
    · exact (hresult rfl).trans (UInt8.toNat_or _ _)
    · exact (hresult rfl).trans (UInt8.toNat_and _ _)
    · exact (hresult rfl).trans (UInt8.toNat_xor _ _)
  · intro operation hflags hx
    exact register_executeArithmetic_of_ne hx.symm fun _ => hflags
  · intro operation k hk hF
    exact register_executeArithmetic_of_ne hk fun h => absurd h hF

end Machine

end Chip8

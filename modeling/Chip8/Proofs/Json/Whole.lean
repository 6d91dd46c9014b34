-- SUMMARY: A whole number of any size is read as itself or not at all.
import Chip8.Proofs.Json.Layout

/-! # Whole numbers of any size

Whole numbers are written with all their digits. The reader keeps digits as long as
the significand fits a word of 64 bits and takes a number that goes on for a real one, so
what it takes for a whole number is the very number that was written. -/

namespace Chip8.Json

variable {s rest after : List Char}

/-! ## Digits -/

theorem startsWithDigit_of_takeWhile (h : (s.takeWhile Char.isDigit).length = 0) :
    startsWithDigit s = false := by
  cases s with
  | nil => rfl
  | cons c s => simpa [startsWithDigit, List.takeWhile_cons] using h

/-- Digits are only left behind when they do not fit the significand. -/
theorem fits_of_takeSignificand {digits : List Char} (hdigits : ∀ c ∈ digits, c.isDigit = true)
    {n taken : Nat} (hn : n ≤ significandLimit)
    (h : startsWithDigit (takeSignificand n taken (digits ++ rest)).2.2 = false) :
    Nat.ofDigitChars 10 digits n ≤ significandLimit := by
  induction digits generalizing n taken with
  | nil => simpa using hn
  | cons c digits ih =>
    obtain ⟨hc, hdigits⟩ := List.forall_mem_cons.1 hdigits
    have hnext : 10 * n + (c.toNat - '0'.toNat) = n * 10 + digitValue c := by
      rw [digitValue, Nat.mul_comm]
    rw [Nat.ofDigitChars_cons, hnext]
    by_cases hle : n * 10 + digitValue c ≤ significandLimit
    · simp only [List.cons_append, takeSignificand, hc, hle, decide_true, Bool.and_self,
        if_true] at h
      exact ih hdigits hle h
    · simp [takeSignificand, hle, startsWithDigit, hc] at h

/-- Only numbers that fit a significand are read as whole numbers. -/
theorem fits_of_readUnsigned {negative : Bool} {n : Nat} {z : Int}
    (h : readUnsigned negative (Nat.toDigits 10 n ++ rest) = .ok (.integer z, after)) :
    n ≤ significandLimit := by
  rcases Nat.eq_zero_or_pos n with rfl | hn
  · exact Nat.zero_le _
  · obtain ⟨c, digits, heq, hc, hzero⟩ := head_toDigits hn
    simp only [heq, List.cons_append, readUnsigned, hzero, if_false, hc, if_true] at h
    have hdropped := startsWithDigit_of_takeWhile (skipAfterDigits_of_read h).1
    rw [← List.cons_append, ← heq] at hdropped
    have hfits := fits_of_takeSignificand (isDigit_toDigits n) (Nat.zero_le _) hdropped
    rwa [Nat.ofDigitChars_ten_toDigits] at hfits

/-! ## Numbers with a sign -/

theorem toList_ofNat (n : Nat) : (toString (Int.ofNat n)).toList = Nat.toDigits 10 n := by
  rw [show toString (Int.ofNat n) = toString n from rfl, Nat.toString_eq_repr, Nat.toList_repr]

theorem toList_negSucc (n : Nat) :
    (toString (Int.negSucc n)).toList = '-' :: Nat.toDigits 10 (n + 1) := by
  rw [show toString (Int.negSucc n) = "-" ++ toString (n + 1) from rfl, Nat.toString_eq_repr,
    String.toList_append, Nat.toList_repr]
  rfl

theorem isNumber_toString (n : Int) : IsNumber (toString n).toList := by
  cases n with
  | ofNat n =>
    rw [toList_ofNat]
    exact .positive (isUnsigned_toDigits n)
  | negSucc n =>
    rw [toList_negSucc]
    exact .negative (isUnsigned_toDigits (n + 1))

/-- A written number that is read as a whole number is read as itself. -/
theorem eq_of_readNumber {n z : Int} (hrest : endsNumber rest = true)
    (h : readNumber ((toString n).toList ++ rest) = .ok (.integer z, after)) : z = n := by
  cases n with
  | ofNat n =>
    rw [toList_ofNat, readNumber_digits] at h
    rw [readUnsigned_toDigits (fits_of_readUnsigned h) hrest] at h
    simp only [whole, Except.ok.injEq, Prod.mk.injEq] at h
    simpa using h.1.symm
  | negSucc n =>
    rw [toList_negSucc, List.cons_append, readNumber] at h
    rw [readUnsigned_toDigits (fits_of_readUnsigned h) hrest] at h
    simp only [whole, Bool.not_true, Bool.false_eq_true, if_false, Except.ok.injEq,
      Prod.mk.injEq] at h
    obtain ⟨h, -⟩ := h
    split at h
    · cases h
    · rw [Number.integer.injEq] at h
      rw [← h]
      rfl

/-! ## Numbers in a range -/

theorem readNumber_of_readNatural {limit k : Nat} {expected : String}
    (h : readNatural limit expected s = .ok (k, after)) :
    readNumber (skipBlanks s) = .ok (.integer k, after) ∧ k ≤ limit := by
  unfold readNatural at h
  split at h
  · cases h
  · next hs =>
    rw [hs]
    split at h
    · split at h
      · cases h
      · cases h
      · next z _ hnumber =>
        split at h
        · next hz =>
          simp only [Except.ok.injEq, Prod.mk.injEq] at h
          obtain ⟨rfl, rfl⟩ := h
          rw [hnumber, Int.toNat_of_nonneg hz.1]
          exact ⟨rfl, Int.toNat_le.2 hz.2⟩
        · cases h
    · cases h

/-- A natural number is only read from its own written form. -/
theorem eq_of_readNatural {n : Int} {limit k : Nat} {expected : String}
    (hrest : endsNumber rest = true)
    (h : readNatural limit expected ((toString n).toList ++ rest) = .ok (k, after)) :
    (k : Int) = n ∧ k ≤ limit := by
  obtain ⟨hnumber, hle⟩ := readNumber_of_readNatural h
  rw [(IsValue.number (isNumber_toString n)).skipBlanks_eq] at hnumber
  exact ⟨eq_of_readNumber hrest hnumber, hle⟩

theorem exists_byte_iff {n : Int} : (∃ b : UInt8, (b.toNat : Int) = n) ↔ 0 ≤ n ∧ n ≤ 255 := by
  constructor
  · rintro ⟨b, rfl⟩
    have hbyte := b.toNat_lt
    omega
  · rintro ⟨hnonneg, hle⟩
    have hsize : n.toNat < 2 ^ 8 := by omega
    refine ⟨UInt8.ofNat n.toNat, ?_⟩
    rw [UInt8.toNat_ofNat_of_lt' hsize, Int.toNat_of_nonneg hnonneg]

theorem exists_word_iff {n : Int} : (∃ w : UInt16, (w.toNat : Int) = n) ↔ 0 ≤ n ∧ n ≤ 65535 := by
  constructor
  · rintro ⟨w, rfl⟩
    have hword := w.toNat_lt
    omega
  · rintro ⟨hnonneg, hle⟩
    have hsize : n.toNat < 2 ^ 16 := by omega
    refine ⟨UInt16.ofNat n.toNat, ?_⟩
    rw [UInt16.toNat_ofNat_of_lt' hsize, Int.toNat_of_nonneg hnonneg]

end Chip8.Json

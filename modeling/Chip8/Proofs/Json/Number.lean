-- SUMMARY: Whole numbers in decimal digits are read back.
import Chip8.Json.Number

/-! # Reading whole numbers back

A whole number is written in decimal digits without leading zeros. Read back, the
digits give the number again, as long as it fits a significand and the text
after it does not go on with the number. -/

namespace Chip8.Json

/-- Whether a text does not go on with a number that ends before it: it starts
    with no digit, point or exponent mark. -/
def endsNumber : List Char → Bool
  | [] => true
  | c :: _ => !(c.isDigit || c == '.' || isExponentMark c)

theorem startsWithDigit_of_endsNumber {rest : List Char} (h : endsNumber rest = true) :
    startsWithDigit rest = false := by
  cases rest with
  | nil => rfl
  | cons c rest =>
    simp only [endsNumber, Bool.not_eq_true', Bool.or_eq_false_iff] at h
    exact h.1.1

/-! ## Digits -/

/-- More digits never make a number smaller. -/
theorem le_ofDigitChars (digits : List Char) (n : Nat) : n ≤ Nat.ofDigitChars 10 digits n := by
  induction digits generalizing n with
  | nil => simp
  | cons c digits ih =>
    rw [Nat.ofDigitChars_cons]
    have hrest := ih (10 * n + (c.toNat - '0'.toNat))
    omega

theorem isDigit_toDigits (n : Nat) : ∀ c ∈ Nat.toDigits 10 n, c.isDigit = true :=
  fun _ hc => Nat.isDigit_of_mem_toDigits (by decide) (by decide) hc

/-- A number is written with at least one digit. -/
theorem toDigits_eq_cons (n : Nat) :
    ∃ c digits, Nat.toDigits 10 n = c :: digits ∧ c.isDigit = true := by
  cases hdigits : Nat.toDigits 10 n with
  | nil => exact absurd hdigits Nat.toDigits_ne_nil
  | cons c digits =>
    have hmem : c ∈ Nat.toDigits 10 n := by
      rw [hdigits]
      exact List.mem_cons_self
    exact ⟨c, digits, rfl, isDigit_toDigits n c hmem⟩

/-- The significand takes all digits of a number that fits. -/
theorem takeSignificand_append {digits rest : List Char} (hdigits : ∀ c ∈ digits, c.isDigit = true)
    (hrest : startsWithDigit rest = false) (n taken : Nat)
    (hfits : Nat.ofDigitChars 10 digits n ≤ significandLimit) :
    takeSignificand n taken (digits ++ rest) =
      (Nat.ofDigitChars 10 digits n, taken + digits.length, rest) := by
  induction digits generalizing n taken with
  | nil =>
    cases rest with
    | nil => rfl
    | cons c rest =>
      have hc : c.isDigit = false := hrest
      simp [takeSignificand, hc]
  | cons c digits ih =>
    have hnext : 10 * n + (c.toNat - '0'.toNat) = n * 10 + digitValue c := by
      rw [digitValue, Nat.mul_comm]
    rw [Nat.ofDigitChars_cons, hnext] at hfits ⊢
    have hc : c.isDigit = true := hdigits c List.mem_cons_self
    have hle := Nat.le_trans (le_ofDigitChars digits _) hfits
    simp only [List.cons_append, takeSignificand, hc, hle, decide_true, Bool.and_self, if_true]
    rw [ih (fun d hd => hdigits d (List.mem_cons_of_mem c hd)) _ _ hfits, List.length_cons]
    simp only [Prod.mk.injEq, and_true, true_and]
    omega

/-- The digits of a number other than zero do not start with a zero. -/
theorem head_toDigits {n : Nat} (hn : 0 < n) :
    ∃ c digits, Nat.toDigits 10 n = c :: digits ∧ c.isDigit = true ∧ c ≠ '0' := by
  induction n using Nat.strongRecOn with
  | ind n ih =>
    by_cases hsmall : n < 10
    · refine ⟨n.digitChar, [], Nat.toDigits_of_lt_base hsmall, ?_, ?_⟩
      · apply isDigit_toDigits n
        rw [Nat.toDigits_of_lt_base hsmall]
        exact List.mem_singleton_self _
      · intro hzero
        have hdigit := Nat.toNat_digitChar_sub_48_of_lt_ten hsmall
        rw [hzero] at hdigit
        simp at hdigit
        omega
    · obtain ⟨c, digits, heq, hc⟩ := ih (n / 10) (by omega) (by omega)
      refine ⟨c, digits ++ [(n % 10).digitChar], ?_, hc⟩
      rw [Nat.toDigits_of_base_le (by decide) (by omega), heq, List.cons_append]

/-! ## Numbers -/

/-- Behind the digits of a whole number nothing else is read. -/
theorem readAfterDigits_whole {rest : List Char} (h : endsNumber rest = true) (negative : Bool)
    (n : Nat) : readAfterDigits negative n 0 rest = .ok (whole negative n, rest) := by
  cases rest with
  | nil => rfl
  | cons c rest =>
    simp only [endsNumber, Bool.not_eq_true', Bool.or_eq_false_iff, beq_eq_false_iff_ne] at h
    simp [readAfterDigits, h.1.2, h.2]

/-- The digits of a number that fits are read as that number. -/
theorem readUnsigned_toDigits {n : Nat} {rest : List Char} (hfits : n ≤ significandLimit)
    (hrest : endsNumber rest = true) (negative : Bool) :
    readUnsigned negative (Nat.toDigits 10 n ++ rest) = .ok (whole negative n, rest) := by
  have hdigit := startsWithDigit_of_endsNumber hrest
  rcases Nat.eq_zero_or_pos n with rfl | hn
  · simp [readUnsigned, hdigit, readAfterDigits_whole hrest]
  · obtain ⟨c, digits, heq, hc, hzero⟩ := head_toDigits hn
    have htake : takeSignificand 0 0 (c :: (digits ++ rest)) = (n, 0 + (c :: digits).length, rest) := by
      have hvalue : Nat.ofDigitChars 10 (c :: digits) 0 = n := by
        rw [← heq]
        exact Nat.ofDigitChars_ten_toDigits
      have hdigits : ∀ d ∈ c :: digits, d.isDigit = true := by
        rw [← heq]
        exact isDigit_toDigits n
      have htaken := takeSignificand_append hdigits hdigit 0 0 (hvalue ▸ hfits)
      rwa [hvalue] at htaken
    have hstop : rest.takeWhile Char.isDigit = [] ∧ skipDigits rest = rest := by
      cases rest with
      | nil => exact ⟨rfl, rfl⟩
      | cons d rest =>
        have hd : d.isDigit = false := hdigit
        simp [skipDigits, hd]
    simp only [heq, List.cons_append, readUnsigned, hzero, if_false, hc, if_true, htake, hstop,
      List.length_nil]
    exact readAfterDigits_whole hrest negative n

/-- Digits have no sign in front of them. -/
theorem readNumber_digits (n : Nat) (rest : List Char) :
    readNumber (Nat.toDigits 10 n ++ rest) = readUnsigned false (Nat.toDigits 10 n ++ rest) := by
  have hsign : ∀ s, Nat.toDigits 10 n ++ rest ≠ '-' :: s := by
    intro s heq
    obtain ⟨c, digits, hdigits, hc⟩ := toDigits_eq_cons n
    rw [hdigits, List.cons_append, List.cons.injEq] at heq
    rw [heq.1] at hc
    cases hc
  unfold readNumber
  split
  · next s heq => exact absurd heq (hsign s)
  · rfl

/-- The digits of a number that fits are read as that number, without a sign. -/
theorem readNumber_toDigits {n : Nat} {rest : List Char} (hfits : n ≤ significandLimit)
    (hrest : endsNumber rest = true) :
    readNumber (Nat.toDigits 10 n ++ rest) = .ok (.integer n, rest) :=
  (readNumber_digits n rest).trans (readUnsigned_toDigits hfits hrest false)

end Chip8.Json

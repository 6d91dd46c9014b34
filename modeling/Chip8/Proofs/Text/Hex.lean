-- SUMMARY: Padded numbers, hexadecimal or decimal, are read back from their texts.
import Chip8.Proofs.Json.Number
import Chip8.Text.Hex

/-! # Reading padded numbers back

The zeros in front of hexadecimal digits add nothing to the number that they stand for, and
the blanks in front of decimal digits are none of them. So the text of a number tells the
number, whatever the width. -/

namespace Chip8.Text

/-! ## Hexadecimal -/

/-- What an upper-case hexadecimal digit stands for. -/
def hexValue (c : Char) : Nat :=
  if c.isDigit then c.toNat - '0'.toNat else c.toNat - 'A'.toNat + 10

/-- What upper-case hexadecimal digits stand for. -/
def ofHex (digits : List Char) : Nat :=
  digits.foldl (fun n c => 16 * n + hexValue c) 0

theorem hexValue_digitChar {d : Nat} (h : d < 16) : hexValue d.digitChar.toUpper = d := by
  have hall : ∀ d : Fin 16, hexValue (Nat.digitChar d).toUpper = d := by decide
  exact hall ⟨d, h⟩

theorem ofHex_concat (digits : List Char) (c : Char) :
    ofHex (digits ++ [c]) = 16 * ofHex digits + hexValue c := by
  rw [ofHex, List.foldl_append]
  rfl

/-- The last digit of a number is its rest, and the ones before it are those of the quotient. -/
theorem ofHex_toDigits (n : Nat) : ofHex ((Nat.toDigits 16 n).map Char.toUpper) = n := by
  induction n using Nat.strongRecOn with
  | ind n ih =>
    rcases Nat.lt_or_ge n 16 with hsmall | hlarge
    · rw [Nat.toDigits_of_lt_base hsmall, List.map_singleton, ← List.nil_append [_], ofHex_concat,
        hexValue_digitChar hsmall]
      exact Nat.zero_add n
    · have hquotient : n / 16 < n := Nat.div_lt_self (by omega) (by decide)
      rw [Nat.toDigits_of_base_le (by decide) hlarge, List.map_append, List.map_singleton,
        ofHex_concat, ih _ hquotient, hexValue_digitChar (Nat.mod_lt n (by decide)),
        Nat.div_add_mod]

theorem ofHex_leftpad (width : Nat) (digits : List Char) :
    ofHex (digits.leftpad width '0') = ofHex digits := by
  rw [List.leftpad]
  induction width - digits.length with
  | zero => rfl
  | succ k ih =>
    rw [List.replicate_succ, List.cons_append, ← ih]
    rfl

theorem ofHex_hex (width n : Nat) : ofHex (hex width n).toList = n := by
  rw [hex, String.toList_ofList, ofHex_leftpad, ofHex_toDigits]

/-! ## Right-aligned decimals -/

/-- Reads a decimal number behind blanks, and gives what is left of the text. -/
def readAligned (text : List Char) : Nat × List Char :=
  let number := text.dropWhile (· == ' ')
  (Nat.ofDigitChars 10 (number.takeWhile Char.isDigit) 0, number.dropWhile Char.isDigit)

/-- A number does not start with a blank, so those in front of it are all that is dropped. -/
theorem dropWhile_rightAligned (width n : Nat) (rest : List Char) :
    ((rightAligned width n).toList ++ rest).dropWhile (· == ' ') = Nat.toDigits 10 n ++ rest := by
  have hblanks : ∀ c ∈ List.replicate (width - (Nat.toDigits 10 n).length) ' ', (c == ' ') = true :=
    fun c hc => beq_iff_eq.2 (List.eq_of_mem_replicate hc)
  rw [rightAligned, String.toList_ofList, List.leftpad, List.append_assoc,
    List.dropWhile_append_of_pos hblanks]
  obtain ⟨c, digits, hdigits, hc⟩ := Json.toDigits_eq_cons n
  rw [hdigits, List.cons_append]
  refine List.dropWhile_cons_of_neg fun hblank => ?_
  rw [beq_iff_eq.1 hblank] at hc
  cases hc

/-- The text of a number is read back when something other than a digit follows it. -/
theorem readAligned_append (width n : Nat) {c : Char} (hc : c.isDigit = false)
    (rest : List Char) :
    readAligned ((rightAligned width n).toList ++ c :: rest) = (n, c :: rest) := by
  have hdigits := Json.isDigit_toDigits n
  have hnone : ¬c.isDigit = true := Bool.eq_false_iff.1 hc
  simp only [readAligned, dropWhile_rightAligned]
  rw [List.takeWhile_append_of_pos hdigits, List.dropWhile_append_of_pos hdigits,
    List.takeWhile_cons_of_neg hnone, List.dropWhile_cons_of_neg hnone, List.append_nil,
    Nat.ofDigitChars_ten_toDigits]

end Chip8.Text

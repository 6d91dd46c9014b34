import Chip8.Json.Text

/-! # Numbers

A number without fraction and exponent is whole when its digits fit a word of
64 bits, and real otherwise. The significand of a real number takes digits as
long as it fits a word; the digits after that only move the exponent. Its value
is the significand, rounded, times or over the magnitude nearest to the power
of ten, so a real may differ from the nearest one in its last place. Reals are
never wanted here, they only show up in what a fault says.

A number in a place that nobody reads is skipped by its form alone. -/

namespace Chip8.Json

open Decimal (Binary64)

inductive Number where
  | integer (value : Int)
  | real (negative : Bool) (magnitude : Binary64)
deriving DecidableEq

/-- The largest significand. -/
def significandLimit : Nat := 0xFFFFFFFFFFFFFFFF

/-- The largest exponent that is read as a number. -/
def exponentLimit : Nat := 0x7FFFFFFF

def digitValue (c : Char) : Nat := c.toNat - '0'.toNat

def startsWithDigit : List Char → Bool
  | [] => false
  | c :: _ => c.isDigit

def skipDigits (s : List Char) : List Char := s.dropWhile Char.isDigit

theorem skipDigits_length (s : List Char) : (skipDigits s).length ≤ s.length :=
  (List.dropWhile_suffix _).length_le

/-- The value of leading digits of any number. -/
def digitsValue (s : List Char) : Nat :=
  (s.takeWhile Char.isDigit).foldl (fun n c => n * 10 + digitValue c) 0

/-- Takes digits into a significand while it fits, with the number of digits
    taken and the characters left. -/
def takeSignificand (significand taken : Nat) : List Char → Nat × Nat × List Char
  | [] => (significand, taken, [])
  | c :: s =>
    let next := significand * 10 + digitValue c
    if c.isDigit && next ≤ significandLimit then takeSignificand next (taken + 1) s
    else (significand, taken, c :: s)

theorem takeSignificand_length (significand taken : Nat) (s : List Char) :
    (takeSignificand significand taken s).2.2.length ≤ s.length := by
  induction s generalizing significand taken with
  | nil => simp [takeSignificand]
  | cons c s ih =>
    simp only [takeSignificand]
    split
    · exact Nat.le_succ_of_le (ih _ _)
    · exact Nat.le_refl _

/-- The first digit always fits the significand. -/
theorem takeSignificand_cons_length {c : Char} {s : List Char} (hdigit : c.isDigit = true) :
    (takeSignificand 0 0 (c :: s)).2.2.length ≤ s.length := by
  have hsmall : 0 * 10 + digitValue c ≤ significandLimit := by
    simp only [Char.isDigit, Bool.and_eq_true, decide_eq_true_eq] at hdigit
    have hnine : c.toNat ≤ 57 := hdigit.2
    simp only [digitValue, significandLimit]
    omega
  simp only [takeSignificand, hdigit, hsmall, decide_true, Bool.and_self, if_true]
  exact takeSignificand_length _ _ _

/-! ## Scaling by a power of ten -/

/-- The largest power of ten that is a finite magnitude. -/
def largestPower : Nat := 308

/-- Divides by a power of ten, in strides of the largest one. -/
def scaleDown (x : Binary64) (e : Nat) : Binary64 :=
  if e ≤ largestPower then x.div (.powerOfTen e)
  else if x.units = 0 then x
  else scaleDown (x.div (.powerOfTen largestPower)) (e - largestPower)
termination_by e
decreasing_by simp only [largestPower] at *; omega

/-- `significand * 10 ^ exponent`, refused when it is too large. -/
def scale (significand : Nat) (exponent : Int) : Except Fault Binary64 :=
  let x := Binary64.ofNat significand
  if exponent < 0 then .ok (scaleDown x (-exponent).toNat)
  else if exponent.toNat ≤ largestPower then
    let y := x.mul (.powerOfTen exponent.toNat)
    if y.isInfinite then .error .numberTooLarge else .ok y
  else if x.units = 0 then .ok x
  else .error .numberTooLarge

def real (negative : Bool) (significand : Nat) (exponent : Int) (s : List Char) :
    Except Fault (Number × List Char) :=
  (scale significand exponent).map fun x => (.real negative x, s)

/-! ## Reading -/

/-- A number that ends after its digits. Zero with a sign, and what lies below
    the words of 64 bits with a sign, are real. -/
def whole (negative : Bool) (significand : Nat) : Number :=
  if !negative then .integer significand
  else if significand = 0 ∨ 0x8000000000000000 < significand then .real true (.ofNat significand)
  else .integer (-significand)

/-- The sign of an exponent and the characters after it. -/
def exponentSign : List Char → Bool × List Char
  | '+' :: s => (false, s)
  | '-' :: s => (true, s)
  | s => (false, s)

theorem exponentSign_length (s : List Char) : (exponentSign s).2.length ≤ s.length := by
  unfold exponentSign
  split <;> simp

/-- The exponent of a number, after its mark. -/
def readExponent (negative : Bool) (significand : Nat) (start : Int) (s : List Char) :
    Except Fault (Number × List Char) :=
  let (down, digits) := exponentSign s
  if digits = [] then .error .endInValue
  else if !startsWithDigit digits then .error .badNumber
  else
    let e := digitsValue digits
    let rest := skipDigits digits
    if exponentLimit < e then
      if significand ≠ 0 ∧ !down then .error .numberTooLarge else .ok (.real negative ⟨0⟩, rest)
    else real negative significand (if down then start - e else start + e) rest

def isExponentMark (c : Char) : Bool := c == 'e' || c == 'E'

/-- The fraction of a number, after its point. -/
def readFraction (negative : Bool) (significand : Nat) (start : Int) (s : List Char) :
    Except Fault (Number × List Char) :=
  let (significand, taken, rest) := takeSignificand significand 0 s
  if taken = 0 ∧ !startsWithDigit rest then
    .error (if rest = [] then .endInValue else .badNumber)
  else
    match skipDigits rest with
    | [] => real negative significand (start - taken) []
    | c :: after =>
      if isExponentMark c then readExponent negative significand (start - taken) after
      else real negative significand (start - taken) (c :: after)

/-- What follows the digits before the point, of which the last `dropped` did
    not fit the significand. -/
def readAfterDigits (negative : Bool) (significand dropped : Nat) (s : List Char) :
    Except Fault (Number × List Char) :=
  let plain := if dropped = 0 then .ok (whole negative significand, s)
    else real negative significand dropped s
  match s with
  | [] => plain
  | c :: after =>
    if c = '.' then readFraction negative significand dropped after
    else if isExponentMark c then readExponent negative significand dropped after
    else plain

/-- A number after its sign. -/
def readUnsigned (negative : Bool) : List Char → Except Fault (Number × List Char)
  | [] => .error .endInValue
  | c :: s =>
    if c = '0' then
      if startsWithDigit s then .error .badNumber else readAfterDigits negative 0 0 s
    else if c.isDigit then
      let (significand, _, rest) := takeSignificand 0 0 (c :: s)
      let dropped := (rest.takeWhile Char.isDigit).length
      readAfterDigits negative significand dropped (skipDigits rest)
    else .error .badNumber

/-- A number, sign included. -/
def readNumber : List Char → Except Fault (Number × List Char)
  | '-' :: s => readUnsigned true s
  | s => readUnsigned false s

/-! ## Skipping -/

def skipExponent (s : List Char) : Except Fault (List Char) :=
  let digits := (exponentSign s).2
  if startsWithDigit digits then .ok (skipDigits digits) else .error .badNumber

def skipOptionalExponent : List Char → Except Fault (List Char)
  | [] => .ok []
  | c :: s => if isExponentMark c then skipExponent s else .ok (c :: s)

def skipFraction (s : List Char) : Except Fault (List Char) :=
  if startsWithDigit s then skipOptionalExponent (skipDigits s) else .error .badNumber

def skipAfterDigits : List Char → Except Fault (List Char)
  | [] => .ok []
  | c :: s => if c = '.' then skipFraction s else skipOptionalExponent (c :: s)

def skipUnsigned : List Char → Except Fault (List Char)
  | [] => .error .badNumber
  | c :: s =>
    if c = '0' then if startsWithDigit s then .error .badNumber else skipAfterDigits s
    else if c.isDigit then skipAfterDigits (skipDigits s)
    else .error .badNumber

def skipNumber : List Char → Except Fault (List Char)
  | '-' :: s => skipUnsigned s
  | s => skipUnsigned s

/-! ## Both leave fewer characters -/

theorem real_length {negative : Bool} {m : Nat} {e : Int} {s rest : List Char} {n : Number}
    (h : real negative m e s = .ok (n, rest)) : rest = s := by
  obtain ⟨x, -, heq⟩ := map_eq_ok_iff.1 h
  exact (Prod.mk.inj heq).2.symm

theorem readExponent_length {negative : Bool} {m : Nat} {e : Int} {s rest : List Char} {n : Number}
    (h : readExponent negative m e s = .ok (n, rest)) : rest.length ≤ s.length := by
  have hdigits : (skipDigits (exponentSign s).2).length ≤ s.length :=
    Nat.le_trans (skipDigits_length _) (exponentSign_length s)
  simp only [readExponent] at h
  split at h
  · cases h
  · split at h
    · cases h
    · split at h
      · split at h <;> cases h
        exact hdigits
      · rw [real_length h]
        exact hdigits

theorem readFraction_length {negative : Bool} {m : Nat} {e : Int} {s rest : List Char} {n : Number}
    (h : readFraction negative m e s = .ok (n, rest)) : rest.length ≤ s.length := by
  have hdigits : (skipDigits (takeSignificand m 0 s).2.2).length ≤ s.length :=
    Nat.le_trans (skipDigits_length _) (takeSignificand_length m 0 s)
  simp only [readFraction] at h
  split at h
  · cases h
  · split at h
    · rw [real_length h]
      exact Nat.zero_le _
    · next c after hbehind =>
      rw [hbehind] at hdigits
      split at h
      · exact Nat.le_trans (readExponent_length h) (Nat.le_of_succ_le hdigits)
      · rw [real_length h]
        exact hdigits

theorem readAfterDigits_length {negative : Bool} {m d : Nat} {s rest : List Char} {n : Number}
    (h : readAfterDigits negative m d s = .ok (n, rest)) : rest.length ≤ s.length := by
  have hplain : ∀ {t : List Char}, (if d = 0 then Except.ok (whole negative m, t)
      else real negative m d t) = .ok (n, rest) → rest.length ≤ t.length := by
    intro t ht
    split at ht
    · cases ht
      exact Nat.le_refl _
    · exact Nat.le_of_eq (congrArg List.length (real_length ht))
  simp only [readAfterDigits] at h
  split at h
  · exact hplain h
  · split at h
    · exact Nat.le_succ_of_le (readFraction_length h)
    · split at h
      · exact Nat.le_succ_of_le (readExponent_length h)
      · exact hplain h

theorem readUnsigned_length {negative : Bool} {s rest : List Char} {n : Number}
    (h : readUnsigned negative s = .ok (n, rest)) : rest.length < s.length := by
  unfold readUnsigned at h
  split at h
  · cases h
  · next c s =>
    split at h
    · split at h
      · cases h
      · exact Nat.lt_succ_of_le (readAfterDigits_length h)
    · split at h
      · next hdigit =>
        have hdigits : (skipDigits (takeSignificand 0 0 (c :: s)).2.2).length ≤ s.length :=
          Nat.le_trans (skipDigits_length _) (takeSignificand_cons_length hdigit)
        exact Nat.lt_succ_of_le (Nat.le_trans (readAfterDigits_length h) hdigits)
      · cases h

theorem readNumber_length {s rest : List Char} {n : Number}
    (h : readNumber s = .ok (n, rest)) : rest.length < s.length := by
  unfold readNumber at h
  split at h
  · exact Nat.lt_succ_of_lt (readUnsigned_length h)
  · exact readUnsigned_length h

theorem skipExponent_length {s rest : List Char} (h : skipExponent s = .ok rest) :
    rest.length ≤ s.length := by
  simp only [skipExponent] at h
  split at h <;> cases h
  exact Nat.le_trans (skipDigits_length _) (exponentSign_length s)

theorem skipOptionalExponent_length {s rest : List Char} (h : skipOptionalExponent s = .ok rest) :
    rest.length ≤ s.length := by
  unfold skipOptionalExponent at h
  split at h
  · cases h
    exact Nat.le_refl _
  · split at h
    · exact Nat.le_succ_of_le (skipExponent_length h)
    · cases h
      exact Nat.le_refl _

theorem skipFraction_length {s rest : List Char} (h : skipFraction s = .ok rest) :
    rest.length ≤ s.length := by
  unfold skipFraction at h
  split at h
  · exact Nat.le_trans (skipOptionalExponent_length h) (skipDigits_length s)
  · cases h

theorem skipAfterDigits_length {s rest : List Char} (h : skipAfterDigits s = .ok rest) :
    rest.length ≤ s.length := by
  unfold skipAfterDigits at h
  split at h
  · cases h
    exact Nat.le_refl _
  · split at h
    · exact Nat.le_succ_of_le (skipFraction_length h)
    · exact skipOptionalExponent_length h

theorem skipUnsigned_length {s rest : List Char} (h : skipUnsigned s = .ok rest) :
    rest.length < s.length := by
  unfold skipUnsigned at h
  split at h
  · cases h
  · next c s =>
    split at h
    · split at h
      · cases h
      · exact Nat.lt_succ_of_le (skipAfterDigits_length h)
    · split at h
      · have hdigits : rest.length ≤ s.length :=
          Nat.le_trans (skipAfterDigits_length h) (skipDigits_length s)
        exact Nat.lt_succ_of_le hdigits
      · cases h

theorem skipNumber_length {s rest : List Char} (h : skipNumber s = .ok rest) :
    rest.length < s.length := by
  unfold skipNumber at h
  split at h
  · exact Nat.lt_succ_of_lt (skipUnsigned_length h)
  · exact skipUnsigned_length h

end Chip8.Json

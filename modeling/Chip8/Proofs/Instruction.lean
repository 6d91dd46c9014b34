-- SUMMARY: The words of every instruction, told by their numbers, and the addresses that words can name.
import Chip8.Instruction.Decode

/-! # Words and instructions

A word is a number of four digits to the base sixteen. The first one is its family, and
the others are the operands or tell the instructions of one family apart. So the words
of an instruction can be listed by their numbers, and a word is decoded to an
instruction exactly when it is on that list. -/

namespace Chip8

variable {word nnn : UInt16} {x y n : Nibble} {nn : UInt8} {base : Nat}

/-! ## Digits -/

/-- A word by its digits. -/
theorem toNat_eq_digits (word : UInt16) :
    word.toNat = 4096 * (Nibble.ofWord word 12).val + 256 * (Nibble.ofWord word 8).val +
      16 * (Nibble.ofWord word 4).val + (Nibble.ofWord word 0).val := by
  have hword := word.toNat_lt
  simp only [Nibble.ofWord]
  omega

theorem toNat_low_eq_digits (word : UInt16) :
    word.toUInt8.toNat = 16 * (Nibble.ofWord word 4).val + (Nibble.ofWord word 0).val := by
  rw [UInt16.toNat_toUInt8]
  simp only [Nibble.ofWord]
  omega

theorem toNat_address_eq_digits (word : UInt16) :
    (word &&& 0x0FFF).toNat = 256 * (Nibble.ofWord word 8).val +
      16 * (Nibble.ofWord word 4).val + (Nibble.ofWord word 0).val := by
  have hmask : (word &&& 0x0FFF).toNat = word.toNat % 4096 :=
    Nat.and_two_pow_sub_one_eq_mod word.toNat 12
  rw [hmask]
  simp only [Nibble.ofWord]
  omega

/-- The digits of a word are told by its number, where `base` is that of its family. -/
theorem digits_of_toNat (h : word.toNat = base + 256 * x + 16 * y + n) (hbase : base % 4096 = 0) :
    (Nibble.ofWord word 12).val = base / 4096 ∧ Nibble.ofWord word 8 = x ∧
      Nibble.ofWord word 4 = y ∧ Nibble.ofWord word 0 = n := by
  have hdigits := toNat_eq_digits word
  refine ⟨?_, Fin.ext ?_, Fin.ext ?_, Fin.ext ?_⟩ <;> omega

theorem constant_of_toNat (h : word.toNat = base + 256 * x + nn.toNat) (hbase : base % 4096 = 0) :
    (Nibble.ofWord word 12).val = base / 4096 ∧ Nibble.ofWord word 8 = x ∧
      word.toUInt8 = nn := by
  have hnn := nn.toNat_lt
  have hdigits := toNat_eq_digits word
  have hlow := toNat_low_eq_digits word
  refine ⟨?_, Fin.ext ?_, UInt8.toNat_inj.1 ?_⟩ <;> omega

theorem address_of_toNat (h : word.toNat = base + nnn.toNat) (hnnn : nnn.toNat < 0x1000)
    (hbase : base % 4096 = 0) :
    (Nibble.ofWord word 12).val = base / 4096 ∧ word &&& 0x0FFF = nnn := by
  have hdigits := toNat_eq_digits word
  have haddress := toNat_address_eq_digits word
  refine ⟨?_, UInt16.toNat_inj.1 ?_⟩ <;> omega

/-! ## Operations -/

/-- The last digit of a word `8xyN`. -/
def Arithmetic.digit : Arithmetic → Nat
  | copy => 0x0
  | or => 0x1
  | and => 0x2
  | xor => 0x3
  | add => 0x4
  | subtract => 0x5
  | shiftRight => 0x6
  | subtractFrom => 0x7
  | shiftLeft => 0xE

theorem Arithmetic.ofNibble?_eq_some_iff {operation : Arithmetic} :
    ofNibble? n = some operation ↔ n.val = operation.digit := by
  constructor
  · intro h
    unfold ofNibble? at h
    split at h <;> cases h
    all_goals assumption
  · intro h
    unfold ofNibble?
    rw [h]
    cases operation <;> rfl

namespace Instruction

variable {i : Instruction}

/-! ## Instructions -/

/-- Whether an instruction is more than a word that asks for nothing. -/
def known : Instruction → Bool
  | .unknown _ => false
  | _ => true

/-- The number `w` is a word of an instruction. The `n` of `5xyn` and `9xyn` and the
    third digit of the words on keys may be anything. -/
def HasWord (w : Nat) : Instruction → Prop
  | .clear => w = 0x00E0
  | .leave => w = 0x00EE
  | .jump nnn => nnn.toNat < 0x1000 ∧ w = 0x1000 + nnn.toNat
  | .call nnn => nnn.toNat < 0x1000 ∧ w = 0x2000 + nnn.toNat
  | .skipEqual x nn => w = 0x3000 + 256 * x + nn.toNat
  | .skipNotEqual x nn => w = 0x4000 + 256 * x + nn.toNat
  | .skipSame x y => ∃ n : Nibble, w = 0x5000 + 256 * x + 16 * y + n
  | .set x nn => w = 0x6000 + 256 * x + nn.toNat
  | .increase x nn => w = 0x7000 + 256 * x + nn.toNat
  | .arithmetic x y operation => w = 0x8000 + 256 * x + 16 * y + operation.digit
  | .skipDifferent x y => ∃ n : Nibble, w = 0x9000 + 256 * x + 16 * y + n
  | .setIndex nnn => nnn.toNat < 0x1000 ∧ w = 0xA000 + nnn.toNat
  | .jumpPlus nnn => nnn.toNat < 0x1000 ∧ w = 0xB000 + nnn.toNat
  | .random x nn => w = 0xC000 + 256 * x + nn.toNat
  | .draw x y n => w = 0xD000 + 256 * x + 16 * y + n
  | .skipPressed x => ∃ n : Nibble, w = 0xE000 + 256 * x + 16 * n + 0xE
  | .skipReleased x => ∃ n : Nibble, w = 0xE000 + 256 * x + 16 * n + 0x1
  | .readDelay x => w = 0xF000 + 256 * x + 0x07
  | .awaitKey x => w = 0xF000 + 256 * x + 0x0A
  | .setDelay x => w = 0xF000 + 256 * x + 0x15
  | .setSound x => w = 0xF000 + 256 * x + 0x18
  | .addIndex x => w = 0xF000 + 256 * x + 0x1E
  | .glyph x => w = 0xF000 + 256 * x + 0x29
  | .digits x => w = 0xF000 + 256 * x + 0x33
  | .store x => w = 0xF000 + 256 * x + 0x55
  | .recall x => w = 0xF000 + 256 * x + 0x65
  | .unknown word => w = word.toNat

theorem hasWord_decodeMiscellaneous (h : word.toNat = 0xF000 + 256 * x + nn.toNat) :
    (decodeMiscellaneous word x nn).HasWord word.toNat := by
  unfold decodeMiscellaneous
  split
  case h_10 => rfl
  all_goals
    next hnn =>
      rw [hnn] at h
      exact h

/-- A word is a word of the instruction that it is decoded to. -/
theorem hasWord_decode (word : UInt16) : (decode word).HasWord word.toNat := by
  have hdigits := toNat_eq_digits word
  have hlow := toNat_low_eq_digits word
  have haddress := toNat_address_eq_digits word
  have hfamily := (Nibble.ofWord word 12).isLt
  simp only [decode]
  -- one case for each value of the highest digit, the last of which is what is left
  split
  case h_1 =>
    split
    · next hclear => exact congrArg UInt16.toNat hclear
    · split
      · next hleave => exact congrArg UInt16.toNat hleave
      · rfl
  case h_2 | h_3 | h_11 | h_12 => constructor <;> omega
  case h_6 => exact ⟨Nibble.ofWord word 0, by omega⟩
  case h_10 => exact ⟨Nibble.ofWord word 0, by omega⟩
  case h_9 =>
    split
    · next operation hoperation =>
      have hdigit := Arithmetic.ofNibble?_eq_some_iff.1 hoperation
      simp only [HasWord]
      omega
    · rfl
  case h_15 =>
    split
    · next hn =>
      have hdigit := congrArg Fin.val hn
      exact ⟨Nibble.ofWord word 4, by omega⟩
    · split
      · next hn =>
        have hdigit := congrArg Fin.val hn
        exact ⟨Nibble.ofWord word 4, by omega⟩
      · rfl
  case h_16 =>
    have hlast : (Nibble.ofWord word 12).val = 0xF := by grind
    refine hasWord_decodeMiscellaneous ?_
    omega
  all_goals
    simp only [HasWord]
    omega

/-- The words of the last family, whose low byte tells them apart. -/
theorem decode_of_last_toNat {b : UInt8} (h : word.toNat = 0xF000 + 256 * x + b.toNat) :
    decode word = decodeMiscellaneous word x b := by
  obtain ⟨hfamily, hx, hb⟩ := constant_of_toNat h rfl
  simp [decode, hfamily, hx, hb]

/-- A word on the list of an instruction is decoded to that instruction. -/
theorem decode_of_hasWord (h : i.HasWord word.toNat) (hknown : i.known = true) :
    decode word = i := by
  cases i with
  | clear =>
    obtain rfl : word = 0x00E0 := UInt16.toNat_inj.1 h
    rfl
  | leave =>
    obtain rfl : word = 0x00EE := UInt16.toNat_inj.1 h
    rfl
  | jump nnn | call nnn | setIndex nnn | jumpPlus nnn =>
    obtain ⟨hfamily, haddress⟩ := address_of_toNat h.2 h.1 rfl
    simp [decode, hfamily, haddress]
  | skipEqual x nn | skipNotEqual x nn | set x nn | increase x nn | random x nn =>
    simp only [HasWord] at h
    obtain ⟨hfamily, hx, hnn⟩ := constant_of_toNat h rfl
    simp [decode, hfamily, hx, hnn]
  | skipSame x y | skipDifferent x y =>
    obtain ⟨n, hn⟩ := h
    obtain ⟨hfamily, hx, hy, -⟩ := digits_of_toNat hn rfl
    simp [decode, hfamily, hx, hy]
  | draw x y n =>
    simp only [HasWord] at h
    obtain ⟨hfamily, hx, hy, hn⟩ := digits_of_toNat h rfl
    simp [decode, hfamily, hx, hy, hn]
  | arithmetic x y operation =>
    have hdigit : operation.digit < 16 := by cases operation <;> decide
    obtain ⟨hfamily, hx, hy, hn⟩ := digits_of_toNat (n := ⟨operation.digit, hdigit⟩) h rfl
    have hoperation : Arithmetic.ofNibble? (Nibble.ofWord word 0) = some operation :=
      Arithmetic.ofNibble?_eq_some_iff.2 (congrArg Fin.val hn)
    simp [decode, hfamily, hx, hy, hoperation]
  | skipPressed x =>
    obtain ⟨k, hk⟩ := h
    obtain ⟨hfamily, hx, -, hn⟩ := digits_of_toNat (n := 0xE) hk rfl
    simp [decode, hfamily, hx, hn]
  | skipReleased x =>
    obtain ⟨k, hk⟩ := h
    obtain ⟨hfamily, hx, -, hn⟩ := digits_of_toNat (n := 0x1) hk rfl
    simp [decode, hfamily, hx, hn]
  | readDelay x => exact decode_of_last_toNat (b := 0x07) h
  | awaitKey x => exact decode_of_last_toNat (b := 0x0A) h
  | setDelay x => exact decode_of_last_toNat (b := 0x15) h
  | setSound x => exact decode_of_last_toNat (b := 0x18) h
  | addIndex x => exact decode_of_last_toNat (b := 0x1E) h
  | glyph x => exact decode_of_last_toNat (b := 0x29) h
  | digits x => exact decode_of_last_toNat (b := 0x33) h
  | store x => exact decode_of_last_toNat (b := 0x55) h
  | «recall» x => exact decode_of_last_toNat (b := 0x65) h
  | unknown word => cases hknown

/-- The words of an instruction are exactly those on its list. -/
theorem decode_eq_iff (hknown : i.known = true) :
    decode word = i ↔ i.HasWord word.toNat := by
  constructor
  · rintro rfl
    exact hasWord_decode word
  · intro h
    exact decode_of_hasWord h hknown

/-- The words that wait for a key are the numbers `Fx0A`. -/
theorem decode_eq_awaitKey_iff :
    decode word = .awaitKey x ↔ word.toNat = 0xF00A + 256 * x.val := by
  rw [decode_eq_iff rfl, HasWord, Nat.add_right_comm]

/-! ## Addresses in words -/

/-- The address that an instruction goes to, as its word has it. -/
def target? : Instruction → Option UInt16
  | .jump nnn | .jumpPlus nnn | .call nnn => some nnn
  | _ => none

/-- The addresses of words have twelve bits. -/
theorem toNat_le_of_target? (h : (decode word).target? = some nnn) : nnn.toNat ≤ 0xFFF := by
  have hword := hasWord_decode word
  generalize decode word = i at h hword
  cases i with
  | jump | jumpPlus | call =>
    cases h
    exact Nat.le_of_lt_succ hword.1
  | _ => cases h

end Instruction

end Chip8

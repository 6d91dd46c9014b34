-- SUMMARY: Where a step that succeeds leaves the program counter, for every word and every state.
import Chip8.Proofs.Addresses
import Chip8.Proofs.Keypad

/-! # Where a step leads

All words by where they lead: jumps and calls to the address in the word, a return to the
newest address on the stack, a word that waits to itself as long as no key is down, and a
skip whose condition holds past the next word. All other words, those that ask for nothing
among them, lead to the next word. Skips come in pairs on the same operands, and of the two
always one skips. -/

namespace Chip8

/-! ## Words that skip -/

namespace Instruction

/-- The instructions that skip the next word or not. -/
def isSkip : Instruction → Bool
  | .skipEqual _ _ | .skipNotEqual _ _ | .skipSame _ _ | .skipDifferent _ _
  | .skipPressed _ | .skipReleased _ => true
  | _ => false

theorem known_of_isSkip {i : Instruction} (h : i.isSkip = true) : i.known = true := by
  cases i with
  | unknown => cases h
  | _ => rfl

end Instruction

/-- Two words that skip in opposite cases, with the same operands. -/
inductive Opposed : Nat → Nat → Prop where
  | constants (x : Register) (nn : UInt8) :
      Opposed (0x3000 + 256 * x + nn.toNat) (0x4000 + 256 * x + nn.toNat)
  | registers (x y : Register) (n n' : Nibble) :
      Opposed (0x5000 + 256 * x + 16 * y + n) (0x9000 + 256 * x + 16 * y + n')
  | keys (x : Register) (n n' : Nibble) :
      Opposed (0xE000 + 256 * x + 16 * n + 0xE) (0xE000 + 256 * x + 16 * n' + 0x1)

namespace Machine

variable {m : Machine} {i : Instruction} {w w' target : Nat} {word : UInt16}

/-- After the word `w` a machine skips the next one. The third digit of `E?` words, and the
    last one of words that compare registers, may be anything. -/
inductive SkipsAt (m : Machine) (w : Nat) : Prop where
  | equal (x : Register) (nn : UInt8) (hw : w = 0x3000 + 256 * x + nn.toNat)
      (h : m.register x = nn)
  | notEqual (x : Register) (nn : UInt8) (hw : w = 0x4000 + 256 * x + nn.toNat)
      (h : m.register x ≠ nn)
  | same (x y : Register) (n : Nibble) (hw : w = 0x5000 + 256 * x + 16 * y + n)
      (h : m.register x = m.register y)
  | different (x y : Register) (n : Nibble) (hw : w = 0x9000 + 256 * x + 16 * y + n)
      (h : m.register x ≠ m.register y)
  | pressed (x : Register) (n : Nibble) (hw : w = 0xE000 + 256 * x + 16 * n + 0xE)
      (h : ∃ key : Key, key.val = (m.register x).toNat ∧ m.keypad.down.get key = true)
  | released (x : Register) (n : Nibble) (hw : w = 0xE000 + 256 * x + 16 * n + 0x1)
      (h : 15 < (m.register x).toNat ∨
        ∃ key : Key, key.val = (m.register x).toNat ∧ m.keypad.down.get key = false)

/-- A word that skips is that of a skip whose condition holds. -/
theorem SkipsAt.instruction (h : m.SkipsAt w) :
    ∃ i : Instruction, i.HasWord w ∧ i.isSkip = true ∧ m.skips i = true := by
  cases h with
  | equal x nn hw h => exact ⟨.skipEqual x nn, hw, rfl, beq_iff_eq.2 h⟩
  | notEqual x nn hw h => exact ⟨.skipNotEqual x nn, hw, rfl, bne_iff_ne.2 h⟩
  | same x y n hw h => exact ⟨.skipSame x y, ⟨n, hw⟩, rfl, beq_iff_eq.2 h⟩
  | different x y n hw h => exact ⟨.skipDifferent x y, ⟨n, hw⟩, rfl, bne_iff_ne.2 h⟩
  | pressed x n hw h => exact ⟨.skipPressed x, ⟨n, hw⟩, rfl, Keypad.isDown_iff.2 h⟩
  | released x n hw h =>
    have hup : m.keypad.isDown (m.register x) = false := Keypad.isDown_eq_false_iff.2 h
    exact ⟨.skipReleased x, ⟨n, hw⟩, rfl, congrArg not hup⟩

/-- The word of a skip whose condition holds is one that skips. -/
theorem skipsAt_of_skips (hw : i.HasWord w) (h : m.skips i = true) : m.SkipsAt w := by
  cases i with
  | skipEqual x nn => exact .equal x nn hw (beq_iff_eq.1 h)
  | skipNotEqual x nn => exact .notEqual x nn hw (bne_iff_ne.1 h)
  | skipSame x y =>
    obtain ⟨n, hn⟩ := hw
    exact .same x y n hn (beq_iff_eq.1 h)
  | skipDifferent x y =>
    obtain ⟨n, hn⟩ := hw
    exact .different x y n hn (bne_iff_ne.1 h)
  | skipPressed x =>
    obtain ⟨n, hn⟩ := hw
    exact .pressed x n hn (Keypad.isDown_iff.1 h)
  | skipReleased x =>
    obtain ⟨n, hn⟩ := hw
    have hup : m.keypad.isDown (m.register x) = false := Bool.not_inj h
    exact .released x n hn (Keypad.isDown_eq_false_iff.1 hup)
  | _ => cases h

/-! ## Words that lead elsewhere -/

/-- The word `w` names an address, or skips or waits, and so leads a machine there. -/
inductive Leads (m : Machine) (w : Nat) : Nat → Prop where
  | jump {nnn : UInt16} (hnnn : nnn.toNat < 0x1000) (hw : w = 0x1000 + nnn.toNat) :
      Leads m w nnn.toNat
  | call {nnn : UInt16} (hnnn : nnn.toNat < 0x1000) (hw : w = 0x2000 + nnn.toNat) :
      Leads m w nnn.toNat
  | jumpPlus {nnn : UInt16} (hnnn : nnn.toNat < 0x1000) (hw : w = 0xB000 + nnn.toNat) :
      Leads m w (nnn.toNat + (m.register 0).toNat)
  | leave {caller : UInt16} (hw : w = 0x00EE) (hstack : m.stack.getLast? = some caller) :
      Leads m w caller.toNat
  | wait {x : Register} (hw : w = 0xF00A + 256 * x) (hkeys : m.keypad.AllUp) :
      Leads m w m.pc.toNat
  | skip (h : m.SkipsAt w) : Leads m w (m.pc.toNat + 4)

/-- The bytes at the program counter, the high one first, are the word `w`. -/
def NextIs (m : Machine) (w : Nat) : Prop :=
  ∃ high low, m.memory.read m.pc.toNat = .ok high ∧ m.memory.read (m.pc.toNat + 1) = .ok low ∧
    w = high.toNat * 256 + low.toNat

theorem nextIs_iff : m.NextIs w ↔ ∃ word, m.nextWord = .ok word ∧ word.toNat = w := by
  constructor
  · rintro ⟨high, low, hhigh, hlow, rfl⟩
    have hword : m.nextWord = .ok (wordOf high low) := by
      simp only [nextWord, hhigh, hlow]
    exact ⟨wordOf high low, hword, toNat_wordOf high low⟩
  · rintro ⟨word, hword, rfl⟩
    exact bytes_of_nextWord hword

theorem exists_nextIs (h : m.pc.toNat + 1 < memorySize) : ∃ w, m.NextIs w :=
  ⟨_, nextIs_iff.2 ⟨_, nextWord_of_lt h, rfl⟩⟩

theorem inside_of_nextIs (h : m.NextIs w) : m.pc.toNat + 1 < memorySize := by
  obtain ⟨word, hword, -⟩ := nextIs_iff.1 h
  exact inside_of_nextWord hword

theorem fetches_of_hasWord (hmode : m.mode = .running) (hnext : m.NextIs w) (hw : i.HasWord w)
    (hknown : i.known = true) : m.Fetches i := by
  obtain ⟨word, hword, rfl⟩ := nextIs_iff.1 hnext
  exact fetches_iff.2 ⟨hmode, word, hword, Instruction.decode_of_hasWord hw hknown⟩

/-- A running machine takes the instruction of the next word. -/
theorem fetches_decode (hmode : m.mode = .running) (hnext : m.NextIs w) :
    ∃ word : UInt16, word.toNat = w ∧ m.Fetches (Instruction.decode word) := by
  obtain ⟨word, hword, hw⟩ := nextIs_iff.1 hnext
  exact ⟨word, hw, fetches_iff.2 ⟨hmode, word, hword, rfl⟩⟩

/-! ## Behind the word -/

theorem skips_pastWord (m : Machine) (i : Instruction) : m.pastWord.skips i = m.skips i := by
  cases i <;> rfl

theorem toNat_pcAfter_of_skips (hinside : m.pc.toNat + 1 < memorySize) (hskip : i.isSkip = true)
    (h : m.skips i = true) : (m.pastWord.pcAfter i).toNat = m.pc.toNat + 4 := by
  have hpc : m.pastWord.pcAfter i = m.pastWord.pc + 2 := by
    rw [← skips_pastWord] at h
    cases i with
    | skipEqual | skipNotEqual | skipSame | skipDifferent | skipPressed | skipReleased =>
      exact if_pos h
    | _ => cases hskip
  have hpast := toNat_pastWord_pc hinside
  have hfits : m.pastWord.pc.toNat + (2 : UInt16).toNat < UInt16.size := by
    rw [hpast]
    exact Nat.lt_trans (Nat.add_lt_add_right hinside 3) (by decide)
  rw [hpc, Address.toNat_add_of_lt hfits, hpast]
  rfl

/-- Behind a word that leads somewhere the counter is where it leads. -/
theorem toNat_pcAfter_of_leads (hinside : m.pc.toNat + 1 < memorySize)
    (hword : word.toNat = w) (h : m.Leads w target) :
    (m.pastWord.pcAfter (Instruction.decode word)).toNat = target := by
  subst hword
  cases h with
  | jump hnnn hw =>
    rw [Instruction.decode_of_hasWord (i := .jump _) ⟨hnnn, hw⟩ rfl]
    rfl
  | call hnnn hw =>
    rw [Instruction.decode_of_hasWord (i := .call _) ⟨hnnn, hw⟩ rfl]
    rfl
  | @jumpPlus nnn hnnn hw =>
    rw [Instruction.decode_of_hasWord (i := .jumpPlus _) ⟨hnnn, hw⟩ rfl, pcAfter_jumpPlus]
    have hV0 : (m.register 0).toUInt16.toNat = (m.register 0).toNat := UInt8.toNat_toUInt16 _
    have hfits : nnn.toNat + (m.register 0).toUInt16.toNat < UInt16.size := by
      rw [hV0]
      exact Nat.lt_trans (Nat.add_lt_add hnnn (m.register 0).toNat_lt) (by decide)
    exact (Address.toNat_add_of_lt hfits).trans (congrArg (nnn.toNat + ·) hV0)
  | leave hw hstack =>
    have hpast : m.pastWord.stack.getLast? = m.stack.getLast? := rfl
    rw [Instruction.decode_of_hasWord (i := .leave) hw rfl, pcAfter_leave, hpast, hstack]
    rfl
  | wait hw hkeys =>
    have hwaits : m.pastWord.keypad.lowest? = none := Keypad.lowest?_eq_none_iff.2 hkeys
    rw [Instruction.decode_eq_awaitKey_iff.2 hw, pcAfter_awaitKey, hwaits]
    exact congrArg UInt16.toNat (UInt16.add_sub_cancel m.pc 2)
  | skip hskips =>
    obtain ⟨i, hi, hskip, hcondition⟩ := hskips.instruction
    rw [Instruction.decode_of_hasWord hi (Instruction.known_of_isSkip hskip)]
    exact toNat_pcAfter_of_skips hinside hskip hcondition

/-- A word that leads nowhere else leads to the next one. -/
theorem pcAfter_of_not_leads (hw : i.HasWord w) (h : ¬∃ target, m.Leads w target) :
    m.pastWord.pcAfter i = m.pastWord.pc := by
  have hskips : ¬m.pastWord.skips i = true := by
    intro hskips
    rw [skips_pastWord] at hskips
    exact h ⟨_, .skip (skipsAt_of_skips hw hskips)⟩
  cases i with
  | jump nnn => exact absurd ⟨_, .jump hw.1 hw.2⟩ h
  | call nnn => exact absurd ⟨_, .call hw.1 hw.2⟩ h
  | jumpPlus nnn => exact absurd ⟨_, .jumpPlus hw.1 hw.2⟩ h
  | leave =>
    cases hstack : m.stack.getLast? with
    | none => exact congrArg (Option.getD · m.pastWord.pc) hstack
    | some caller => exact absurd ⟨_, .leave hw hstack⟩ h
  | awaitKey x =>
    cases hkey : m.keypad.lowest? with
    | none =>
      have hnumber : w = 0xF00A + 256 * x := Eq.trans hw (Nat.add_right_comm 0xF000 _ _)
      exact absurd ⟨_, .wait hnumber (Keypad.lowest?_eq_none_iff.1 hkey)⟩ h
    | some key =>
      have hpast : m.pastWord.keypad.lowest? = some key := hkey
      rw [pcAfter_awaitKey, hpast]
      rfl
  | _ =>
    unfold pcAfter
    exact if_neg hskips

/-! ## Steps -/

theorem effect_of_isSkip (m : Machine) (byte : UInt8) (hskip : i.isSkip = true) :
    m.effect byte i = .ok (m.skipIf (m.skips i)) := by
  cases i with
  | skipEqual | skipNotEqual | skipSame | skipDifferent | skipPressed | skipReleased => rfl
  | _ => cases hskip

/-- A skip never fails, and it goes past the next word when its condition holds. -/
theorem step_of_isSkip (hi : m.Fetches i) (hskip : i.isSkip = true) (byte : UInt8) :
    (m.step byte).result = .ok .proceed ∧
      (m.step byte).machine.pc.toNat = if m.skips i then m.pc.toNat + 4 else m.pc.toNat + 2 := by
  have hprogress : m.pastWord.progressOf i = .proceed := by
    cases i with
    | awaitKey => cases hskip
    | _ => rfl
  obtain ⟨hmode, word, hword, rfl⟩ := fetches_iff.1 hi
  have hinside := inside_of_nextWord hword
  have heffect := effect_of_isSkip m.pastWord byte hskip
  rw [step_of_fetched hmode hword, execute_of_ok heffect, hprogress, skips_pastWord]
  refine ⟨rfl, ?_⟩
  split
  · next hskips =>
    rw [← toNat_pcAfter_of_skips hinside hskip hskips, ← pc_of_effect heffect, skips_pastWord]
  · next hskips =>
    rw [skipIf_pc, if_neg hskips, toNat_pastWord_pc hinside]

/-- The words of an opposed pair are those of two skips with opposite conditions. -/
theorem instructions_of_opposed (h : Opposed w w') :
    ∃ i j : Instruction, i.HasWord w ∧ j.HasWord w' ∧ i.isSkip = true ∧ j.isSkip = true ∧
      ∀ m : Machine, m.skips j = !m.skips i := by
  cases h with
  | constants x nn =>
    exact ⟨.skipEqual x nn, .skipNotEqual x nn, rfl, rfl, rfl, rfl, fun _ => rfl⟩
  | registers x y n n' =>
    exact ⟨.skipSame x y, .skipDifferent x y, ⟨n, rfl⟩, ⟨n', rfl⟩, rfl, rfl, fun _ => rfl⟩
  | keys x n n' =>
    exact ⟨.skipPressed x, .skipReleased x, ⟨n, rfl⟩, ⟨n', rfl⟩, rfl, rfl, fun _ => rfl⟩

/-- The same machine with another memory. -/
def withMemory (m : Machine) (memory : Memory) : Machine := { m with memory := memory }

theorem skips_withMemory (m : Machine) (memory : Memory) (i : Instruction) :
    (m.withMemory memory).skips i = m.skips i := by
  cases i <;> rfl

/-- The next word of a running machine tells where a step that succeeds leads: to the
    address that `Leads` lists for it, and behind the word when nothing is listed. Where the
    next word is one of two skips in opposite cases, a machine that differs in its memory
    alone and has the other one next goes past one word when this one goes past two, and
    past two when this one goes past one. -/
theorem step_leads (hmode : m.mode = .running) (hpc : m.pc.toNat ≤ 0xFFE) (byte : UInt8) :
    (∃ w, m.NextIs w) ∧
      ∀ w, m.NextIs w →
        let after := (m.step byte).machine.pc.toNat
        (∀ progress, (m.step byte).result = .ok progress →
          (∀ target, m.Leads w target → after = target) ∧
            ((¬∃ target, m.Leads w target) → after = m.pc.toNat + 2)) ∧
          ∀ memory w', (m.withMemory memory).NextIs w' → Opposed w w' →
            let other := (m.withMemory memory).step byte
            (m.step byte).result = .ok .proceed ∧ other.result = .ok .proceed ∧
              (after = m.pc.toNat + 4 ∧ other.machine.pc.toNat = m.pc.toNat + 2 ∨
                after = m.pc.toNat + 2 ∧ other.machine.pc.toNat = m.pc.toNat + 4) := by
  refine ⟨exists_nextIs (Nat.succ_lt_succ (Nat.lt_of_le_of_lt hpc (by decide))), ?_⟩
  intro w hnext after
  have hinside := inside_of_nextIs hnext
  constructor
  · intro progress hok
    obtain ⟨word, rfl, hi⟩ := fetches_decode hmode hnext
    have hafter : (m.step byte).machine.pc = m.pastWord.pcAfter (Instruction.decode word) :=
      pc_of_effect (hi.effect_eq_ok hok)
    constructor
    · intro target hleads
      exact (congrArg UInt16.toNat hafter).trans (toNat_pcAfter_of_leads hinside rfl hleads)
    · intro hnone
      have hbehind := pcAfter_of_not_leads (Instruction.hasWord_decode word) hnone
      exact (congrArg UInt16.toNat (hafter.trans hbehind)).trans (toNat_pastWord_pc hinside)
  · intro memory w' hnext' hopposed other
    obtain ⟨i, j, hw, hw', hi, hj, hnegated⟩ := instructions_of_opposed hopposed
    have hfetches := fetches_of_hasWord hmode hnext hw (Instruction.known_of_isSkip hi)
    have hmode' : (m.withMemory memory).mode = .running := hmode
    have hfetches' := fetches_of_hasWord hmode' hnext' hw' (Instruction.known_of_isSkip hj)
    obtain ⟨hok, hpc⟩ := step_of_isSkip hfetches hi byte
    obtain ⟨hok', hpc'⟩ := step_of_isSkip hfetches' hj byte
    rw [skips_withMemory, hnegated] at hpc'
    refine ⟨hok, hok', ?_⟩
    cases hskips : m.skips i with
    | true =>
      rw [hskips] at hpc hpc'
      exact .inl ⟨hpc, hpc'⟩
    | false =>
      rw [hskips] at hpc hpc'
      exact .inr ⟨hpc, hpc'⟩

/-- A memory with a word on the key of V0 at the start of programs. -/
def keyWord (low : UInt8) : Memory :=
  ⟨Vector.ofFn fun a => if a.val = 0x200 then 0xE0 else if a.val = 0x201 then low else 0⟩

/-- A machine in front of a word that skips when a key is down. No key has the number in V0. -/
def beyondKeys : Machine :=
  { start .spill with memory := keyWord 0x9E }.setRegister 0 0x10

theorem read_keyWord (low : UInt8) {a : Nat} (h : a < memorySize) :
    (keyWord low).read a =
      .ok (if a = 0x200 then 0xE0 else if a = 0x201 then low else 0) := by
  rw [Memory.read_of_lt h]
  exact congrArg Except.ok (Vector.getElem_ofFn h)

theorem nextIs_keyWord (low : UInt8) :
    (beyondKeys.withMemory (keyWord low)).NextIs (0xE0 * 256 + low.toNat) :=
  ⟨0xE0, low, read_keyWord low (a := 0x200) (by decide), read_keyWord low (a := 0x201) (by decide),
    rfl⟩

/-- Such a key counts as up, whatever stands in the third digit of the word. -/
theorem beyondKeys_leads :
    beyondKeys.mode = .running ∧ beyondKeys.pc.toNat ≤ 0xFFE ∧
      (beyondKeys.step 0).machine.pc.toNat = 0x202 ∧
      ((beyondKeys.withMemory (keyWord 0x51)).step 0).machine.pc.toNat = 0x204 := by
  have hstart : beyondKeys.pc.toNat = 0x200 := rfl
  have hpc : beyondKeys.pc.toNat ≤ 0xFFE := by
    rw [hstart]
    decide
  have hlarge : 15 < ((beyondKeys.withMemory (keyWord 0x51)).register 0).toNat := by decide
  have hopposed : Opposed (0xE0 * 256 + 0x9E) (0xE0 * 256 + 0x51) := .keys 0 9 5
  obtain ⟨-, hpressed⟩ := step_leads (m := beyondKeys) rfl hpc 0
  obtain ⟨-, hreleased⟩ := step_leads (m := beyondKeys.withMemory (keyWord 0x51)) rfl hpc 0
  obtain ⟨-, hok, hone⟩ := (hpressed _ (nextIs_keyWord 0x9E)).2 (keyWord 0x51) _
    (nextIs_keyWord 0x51) hopposed
  obtain ⟨hleads, -⟩ := (hreleased _ (nextIs_keyWord 0x51)).1 _ hok
  have hskip := hleads _ (.skip (.released 0 5 rfl (.inl hlarge)))
  refine ⟨rfl, hpc, ?_, hskip⟩
  rcases hone with ⟨-, hother⟩ | ⟨hnext, -⟩
  · exact absurd (Nat.add_left_cancel (hskip.symm.trans hother)) (by decide)
  · exact hnext

end Machine

end Chip8

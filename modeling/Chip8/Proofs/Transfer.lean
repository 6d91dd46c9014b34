-- SUMMARY: Registers put into memory come back as they were, and so does memory put into registers.
import Chip8.Proofs.Addresses
import Chip8.Proofs.Machine.Registers

/-! # Registers in memory

Storing copies the registers from V0 to VX to the bytes from I on, loading copies these
bytes to the registers, and both move I behind the bytes. With I set back, each of them
undoes the other, whatever became of the rest of the machine in between. The decimal
digits of a register are three bytes of the same kind. -/

namespace Chip8

/-- The decimal digits of a byte make up its value. -/
theorem decimalDigits_balance (value : UInt8) :
    100 * (value / 100).toNat + 10 * (value / 10 % 10).toNat + (value % 10).toNat =
      value.toNat := by
  simp only [UInt8.toNat_div, UInt8.toNat_mod, UInt8.reduceToNat]
  omega

theorem toNat_le_of_mem_decimalDigits {value digit : UInt8} (h : digit ∈ decimalDigits value) :
    digit.toNat ≤ 9 := by
  have hvalue := value.toNat_lt
  simp only [decimalDigits, List.mem_cons, List.not_mem_nil, or_false] at h
  rcases h with rfl | rfl | rfl
  all_goals
    simp only [UInt8.toNat_div, UInt8.toNat_mod, UInt8.reduceToNat]
    omega

namespace Machine

variable {m after : Machine} {x : Register}

/-- A machine has put its registers from V0 to VX to the bytes from I on, and moved I
    behind them. -/
structure Stores (m : Machine) (x : Register) (after : Machine) : Prop where
  bytes : ∀ k, k ≤ x → after.memory.read (m.index.toNat + k) = .ok (m.register k)
  others : ∀ a, a < m.index.toNat ∨ m.index.toNat + x < a → after.memory.read a = m.memory.read a
  index : after.index.toNat = m.index.toNat + x + 1
  rest : after = { m with memory := after.memory, index := after.index }

/-- A machine has put the bytes from I on to its registers from V0 to VX, and moved I
    behind them. -/
structure Recalls (m : Machine) (x : Register) (after : Machine) : Prop where
  registers : ∀ k, k ≤ x → m.memory.read (m.index.toNat + k) = .ok (after.register k)
  others : ∀ k, x < k → after.register k = m.register k
  index : after.index.toNat = m.index.toNat + x + 1
  rest : after = { m with registers := after.registers, index := after.index }

/-! ## One instruction -/

theorem toNat_advanceIndex (h : m.index.toNat + x + 1 ≤ memorySize) :
    (m.advanceIndex x).index.toNat = m.index.toNat + x + 1 := by
  have hfits : m.index.toNat + (UInt16.ofNat (x + 1)).toNat < UInt16.size := by
    rw [toNat_ofNat_register]
    exact Nat.lt_of_le_of_lt h (by decide)
  exact (Address.toNat_add_of_lt hfits).trans (congrArg (m.index.toNat + ·) (toNat_ofNat_register x))

/-- Bytes that fit behind I are stored. -/
theorem execute_store_of_inside (h : m.index.toNat + x + 1 ≤ memorySize) (byte : UInt8) :
    ∃ stored, m.execute byte (.store x) = ⟨.ok .proceed, stored, []⟩ ∧ m.Stores x stored := by
  have hfits : m.index.toNat + (m.lowRegisters x).length ≤ memorySize := by
    rwa [length_lowRegisters]
  obtain ⟨memory, hwrite⟩ : ∃ memory, m.memory.writeBytes m.index.toNat (m.lowRegisters x) =
      .ok memory := ⟨_, Memory.writeBytes_of_le hfits⟩
  refine ⟨{ m with memory := memory }.advanceIndex x, execute_of_ok ?_, ?_, ?_, ?_, rfl⟩
  · rw [effect, executeStore, hwrite]
    rfl
  · intro k hk
    exact Memory.read_of_writeBytes_inside hwrite (getElem?_lowRegisters hk)
  · intro a ha
    refine Memory.read_of_writeBytes hwrite (ha.imp_right fun hbeyond => ?_)
    rw [length_lowRegisters]
    exact hbeyond
  · exact toNat_advanceIndex (m := { m with memory := memory }) h

/-- Bytes that fit behind I are loaded. -/
theorem execute_recall_of_inside (h : m.index.toNat + x + 1 ≤ memorySize) (byte : UInt8) :
    ∃ recalled, m.execute byte (.recall x) = ⟨.ok .proceed, recalled, []⟩ ∧
      m.Recalls x recalled := by
  obtain ⟨bytes, hslice⟩ : ∃ bytes, m.memory.slice m.index.toNat (x + 1) = .ok bytes :=
    ⟨_, Memory.slice_of_le h⟩
  have hlength := Memory.length_of_slice hslice
  refine ⟨(m.setLowRegisters bytes).advanceIndex x, execute_of_ok ?_, ?_, ?_, ?_, ?_⟩
  · simp only [effect, executeRecall, hslice, Except.map]
  · intro k hk
    have hin : k.val < bytes.length := hlength ▸ Nat.lt_succ_of_le hk
    have hbyte : bytes[k.val]? = some bytes[k.val] := List.getElem?_eq_getElem hin
    rw [register_advanceIndex, register_setLowRegisters, hbyte]
    exact ((Memory.getElem?_slice_iff hslice).1 hbyte).2
  · intro k hk
    have hnone : bytes[k.val]? = none := List.getElem?_eq_none (hlength ▸ Nat.succ_le_of_lt hk)
    rw [register_advanceIndex, register_setLowRegisters, hnone, Option.getD_none]
  · rw [← m.setLowRegisters_index bytes] at h ⊢
    exact toNat_advanceIndex h
  · obtain ⟨registers, heq⟩ := m.setLowRegisters_eq bytes
    rw [heq]
    rfl

/-- Three bytes that fit behind I take the digits of a register, and I stays. -/
theorem execute_digits_of_inside (h : m.index.toNat + 3 ≤ memorySize) (byte : UInt8)
    (x : Register) :
    ∃ written, m.execute byte (.digits x) = ⟨.ok .proceed, written, []⟩ ∧
      written.index = m.index ∧
      ∀ (k : Nat) (digit : UInt8), (decimalDigits (m.register x))[k]? = some digit →
        written.memory.read (m.index.toNat + k) = .ok digit := by
  obtain ⟨memory, hwrite⟩ : ∃ memory,
      m.memory.writeBytes m.index.toNat (decimalDigits (m.register x)) = .ok memory :=
    ⟨_, Memory.writeBytes_of_le h⟩
  refine ⟨{ m with memory := memory }, execute_of_ok ?_, rfl, fun k digit hdigit => ?_⟩
  · rw [effect, executeDigits, hwrite]
    rfl
  · exact Memory.read_of_writeBytes_inside hwrite hdigit

/-! ## One instruction after the other -/

/-- What is loaded from a byte is the value of that byte. -/
theorem Recalls.register_eq (h : m.Recalls x after) {k : Register} {value : UInt8} (hk : k ≤ x)
    (hread : m.memory.read (m.index.toNat + k) = .ok value) : after.register k = value :=
  Except.ok.inj ((h.registers k hk).symm.trans hread)

/-- Storing what lies in memory already changes no byte. -/
theorem Stores.memory_eq (h : m.Stores x after)
    (hheld : ∀ k, k ≤ x → m.memory.read (m.index.toNat + k) = .ok (m.register k)) :
    after.memory = m.memory := by
  refine Memory.eq_of_read_eq fun a => ?_
  by_cases hout : a < m.index.toNat ∨ m.index.toNat + x < a
  · exact h.others a hout
  · -- a byte inside belongs to the register of its distance from I
    obtain ⟨k, hk, rfl⟩ : ∃ k : Register, k ≤ x ∧ a = m.index.toNat + k := by
      have hx := x.isLt
      have hk : a - m.index.toNat ≤ x.val := by omega
      have ha : a = m.index.toNat + (a - m.index.toNat) := by omega
      exact ⟨⟨a - m.index.toNat, Nat.lt_of_le_of_lt hk hx⟩, hk, ha⟩
    rw [h.bytes k hk, hheld k hk]

/-- With I set back, loading undoes storing whatever was done to the registers and to all
    other bytes, and storing undoes loading. From the decimal digits of a register, loading
    takes its value into V0, V1 and V2. -/
theorem store_recall_inverse (m : Machine) (x : Register) (byte byte' : UInt8) :
    (m.index.toNat + x + 1 ≤ 4096 →
      (∃ stored, m.execute byte (.store x) = ⟨.ok .proceed, stored, []⟩ ∧ m.Stores x stored ∧
        ∀ later : Machine, later.index = m.index →
          (∀ a, m.index.toNat ≤ a → a ≤ m.index.toNat + x →
            later.memory.read a = stored.memory.read a) →
          ∃ reloaded, later.execute byte' (.recall x) = ⟨.ok .proceed, reloaded, []⟩ ∧
            (∀ k, k ≤ x → reloaded.register k = m.register k) ∧
            ∀ k, x < k → reloaded.register k = later.register k) ∧
        ∃ recalled again, m.execute byte (.recall x) = ⟨.ok .proceed, recalled, []⟩ ∧
          { recalled with index := m.index }.execute byte' (.store x) =
            ⟨.ok .proceed, again, []⟩ ∧
          again.memory = m.memory) ∧
      (m.index.toNat + 3 ≤ 4096 →
        ∃ written, m.execute byte (.digits x) = ⟨.ok .proceed, written, []⟩ ∧
          ∀ y : Register, 2 ≤ y → m.index.toNat + y + 1 ≤ 4096 →
            ∃ loaded, written.execute byte' (.recall y) = ⟨.ok .proceed, loaded, []⟩ ∧
              (∀ k, k ≤ 2 → (loaded.register k).toNat ≤ 9) ∧
              100 * (loaded.register 0).toNat + 10 * (loaded.register 1).toNat +
                (loaded.register 2).toNat = (m.register x).toNat) := by
  refine ⟨fun h => ⟨?_, ?_⟩, fun h => ?_⟩
  · obtain ⟨stored, hstore, hstores⟩ := execute_store_of_inside h byte
    refine ⟨stored, hstore, hstores, fun later hindex hkept => ?_⟩
    obtain ⟨reloaded, hrecall, hrecalls⟩ :=
      execute_recall_of_inside (m := later) (x := x) (hindex ▸ h) byte'
    refine ⟨reloaded, hrecall, fun k hk => hrecalls.register_eq hk ?_, hrecalls.others⟩
    rw [hindex, hkept _ (Nat.le_add_right _ _) (Nat.add_le_add_left hk _)]
    exact hstores.bytes k hk
  · obtain ⟨recalled, hrecall, hrecalls⟩ := execute_recall_of_inside h byte
    obtain ⟨again, hstore, hstores⟩ :=
      execute_store_of_inside (m := { recalled with index := m.index }) h byte'
    have hmemory : recalled.memory = m.memory := by rw [hrecalls.rest]
    refine ⟨recalled, again, hrecall, hstore, ?_⟩
    refine (hstores.memory_eq fun k hk => ?_).trans hmemory
    exact (congrArg (·.read (m.index.toNat + k)) hmemory).trans (hrecalls.registers k hk)
  · obtain ⟨written, hdigits, hindex, hread⟩ := execute_digits_of_inside h byte x
    refine ⟨written, hdigits, fun y hy hinside => ?_⟩
    obtain ⟨loaded, hrecall, hrecalls⟩ :=
      execute_recall_of_inside (m := written) (x := y) (hindex ▸ hinside) byte'
    have hloaded : ∀ k : Register, k ≤ 2 → ∀ digit,
        (decimalDigits (m.register x))[k.val]? = some digit → loaded.register k = digit := by
      intro k hk digit hdigit
      refine hrecalls.register_eq (Fin.le_trans hk hy) ?_
      rw [hindex]
      exact hread k digit hdigit
    refine ⟨loaded, hrecall, fun k hk => ?_, ?_⟩
    · have hlt : k.val < (decimalDigits (m.register x)).length := Nat.lt_succ_of_le hk
      rw [hloaded k hk _ (List.getElem?_eq_getElem hlt)]
      exact toNat_le_of_mem_decimalDigits (List.getElem_mem hlt)
    · rw [hloaded 0 (by decide) _ rfl, hloaded 1 (by decide) _ rfl, hloaded 2 (by decide) _ rfl]
      exact decimalDigits_balance (m.register x)

/-- A machine with I at the last three bytes of memory. -/
def topmost : Machine :=
  { start .spill with index := 0xFFD, registers := (Vector.replicate 16 0).set 2 254 }

/-- The last byte of memory keeps V2 while all registers are cleared, and takes the last of
    its digits. -/
theorem store_recall_topmost :
    topmost.index.toNat + (2 : Register) + 1 ≤ 4096 ∧ topmost.index.toNat + 3 ≤ 4096 ∧
      (∃ stored reloaded, topmost.execute 0 (.store 2) = ⟨.ok .proceed, stored, []⟩ ∧
        stored.memory.read 0xFFF = .ok 254 ∧
        { stored with index := 0xFFD, registers := Vector.replicate 16 0 }.execute 0 (.recall 2) =
          ⟨.ok .proceed, reloaded, []⟩ ∧
        reloaded.register 2 = 254) ∧
      ∃ written loaded, topmost.execute 0 (.digits 2) = ⟨.ok .proceed, written, []⟩ ∧
        written.execute 0 (.recall 2) = ⟨.ok .proceed, loaded, []⟩ ∧
        (loaded.register 0).toNat = 2 ∧ (loaded.register 1).toNat = 5 ∧
        (loaded.register 2).toNat = 4 := by
  have hinside : topmost.index.toNat + (2 : Register) + 1 ≤ 4096 := by decide
  have hdigits : topmost.index.toNat + 3 ≤ 4096 := by decide
  have hvalue : (topmost.register 2).toNat = 254 := rfl
  obtain ⟨hregisters, hnumber⟩ := store_recall_inverse topmost 2 0 0
  refine ⟨hinside, hdigits, ?_, ?_⟩
  · obtain ⟨⟨stored, hstore, hstores, hback⟩, -⟩ := hregisters hinside
    obtain ⟨reloaded, hrecall, hsame, -⟩ :=
      hback { stored with index := 0xFFD, registers := Vector.replicate 16 0 } rfl fun _ _ _ => rfl
    exact ⟨stored, reloaded, hstore, hstores.bytes 2 (Fin.le_refl 2), hrecall, hsame 2 (Fin.le_refl 2)⟩
  · obtain ⟨written, hwrite, hload⟩ := hnumber hdigits
    obtain ⟨loaded, hrecall, hnine, hsum⟩ := hload 2 (Fin.le_refl 2) hinside
    have hhundreds := hnine 0 (by decide)
    have htens := hnine 1 (by decide)
    have hones := hnine 2 (by decide)
    rw [hvalue] at hsum
    refine ⟨written, loaded, hwrite, hrecall, ?_, ?_, ?_⟩ <;> omega

end Machine

end Chip8

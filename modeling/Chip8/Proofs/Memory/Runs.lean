-- SUMMARY: Runs of bytes are read and written as bytes one by one, or refused for the lowest one outside.
import Chip8.Proofs.Memory

/-! # Runs of bytes

Bytes are read and written singly or in runs. A run that lies inside comes to the same as
its bytes one by one. The first byte that lies outside stops both with the same fault, but a
run that is refused has written nothing, where single bytes have been written up to there.
An empty run has no such byte, and yet it is refused when it starts behind the end. -/

namespace Chip8.Memory

variable {m after : Memory} {address length a : Nat} {byte : UInt8} {bytes : List UInt8}
variable {fault : Fault}

/-! ## The bytes of a run -/

theorem exists_read_iff : (∃ byte, m.read a = .ok byte) ↔ a < memorySize := by
  rcases Nat.lt_or_ge a memorySize with h | h
  · simp [read_of_lt h, h]
  · simp [read_of_le h, Nat.not_lt.2 h]

theorem exists_write_iff : (∃ after, m.write a byte = .ok after) ↔ a < memorySize := by
  rcases Nat.lt_or_ge a memorySize with h | h
  · simp [write_of_lt h, h]
  · simp [write_of_le h, Nat.not_lt.2 h]

/-- Each of the `length` bytes from `address` on can be read. -/
def Readable (m : Memory) (address length : Nat) : Prop :=
  ∀ a, address ≤ a → a < address + length → ∃ byte, m.read a = .ok byte

/-- Each of the `length` bytes from `address` on can be written. -/
def Writable (m : Memory) (address length : Nat) : Prop :=
  ∀ a, address ≤ a → a < address + length → ∀ byte, ∃ after, m.write a byte = .ok after

/-- A run is inside when it starts there, or right behind the end, and each of its bytes is. -/
theorem add_le_memorySize_iff :
    address + length ≤ memorySize ↔
      address ≤ memorySize ∧ ∀ a, address ≤ a → a < address + length → a < memorySize := by
  constructor
  · intro h
    exact ⟨Nat.le_of_add_right_le h, fun a _ ha => Nat.lt_of_lt_of_le ha h⟩
  · rintro ⟨hstart, hbytes⟩
    cases length with
    | zero => exact hstart
    | succ length => exact hbytes (address + length) (Nat.le_add_right _ _) (Nat.lt_succ_self _)

theorem add_le_iff_readable :
    address + length ≤ memorySize ↔ address ≤ memorySize ∧ m.Readable address length := by
  simp only [add_le_memorySize_iff, Readable, exists_read_iff]

theorem add_le_iff_writable :
    address + length ≤ memorySize ↔ address ≤ memorySize ∧ m.Writable address length := by
  simp only [add_le_memorySize_iff, Writable, exists_write_iff, forall_const]

/-! ## The first byte outside -/

/-- The lowest address outside of memory from `address` on. It is one of the `length`
    addresses of the run, unless there are none. -/
structure FirstOutside (address length a : Nat) : Prop where
  start_le : address ≤ a
  outside : 4096 ≤ a
  lowest : ∀ b, address ≤ b → b < a → b < 4096
  within : 0 < length → a < address + length

theorem firstOutside_max (h : memorySize < address + length) :
    FirstOutside address length (max address memorySize) where
  start_le := Nat.le_max_left _ _
  outside := Nat.le_max_right _ _
  lowest b hb hlt := by
    rcases Nat.le_total address memorySize with h | h
    · rwa [Nat.max_eq_right h] at hlt
    · rw [Nat.max_eq_left h] at hlt
      exact absurd hlt (Nat.not_lt.2 hb)
  within hlength := Nat.max_lt.2 ⟨Nat.lt_add_of_pos_right hlength, h⟩

/-- A run that starts inside has the same first byte outside as one that starts a byte
    further on. -/
theorem outsideFault_succ (h : address < memorySize) :
    outsideFault (address + 1) = outsideFault address := by
  rw [outsideFault, outsideFault, Nat.max_eq_right h, Nat.max_eq_right (Nat.le_of_lt h)]

theorem outsideFault_of_le (h : memorySize ≤ address) :
    outsideFault address = .addressOutOfRange address := by
  rw [outsideFault, Nat.max_eq_left h]

/-! ## Reading one by one -/

/-- The `length` bytes from `address` on, read one by one. -/
def readEach (m : Memory) (address length : Nat) : Except Fault (List UInt8) :=
  (List.range' address length).mapM m.read

theorem readEach_succ_of_lt (h : address < memorySize) :
    m.readEach address (length + 1) =
      (m.readEach (address + 1) length).map (m.cells[address] :: ·) := by
  rw [readEach, List.range'_succ, List.mapM_cons, read_of_lt h]
  rfl

theorem readEach_succ_of_le (h : memorySize ≤ address) :
    m.readEach address (length + 1) = .error (.addressOutOfRange address) := by
  rw [readEach, List.range'_succ, List.mapM_cons, read_of_le h]
  rfl

theorem slice_zero (h : address ≤ memorySize) : m.slice address 0 = .ok [] := by
  rw [slice_of_le h, Vector.toList_extract, Nat.add_zero, Nat.sub_self, List.take_zero]

theorem slice_succ_of_lt (h : address < memorySize) :
    m.slice address (length + 1) = (m.slice (address + 1) length).map (m.cells[address] :: ·) := by
  have hshift : address + 1 + length = address + (length + 1) :=
    Nat.succ_add_eq_add_succ address length
  rcases Nat.lt_or_ge memorySize (address + 1 + length) with hend | hend
  · rw [slice_of_lt (hshift ▸ hend), slice_of_lt hend, outsideFault_succ h]
    rfl
  · have hcells : address < m.cells.toList.length := by rwa [Vector.length_toList]
    rw [slice_of_le (hshift ▸ hend), slice_of_le hend, Vector.toList_extract,
      Vector.toList_extract, List.drop_eq_getElem_cons hcells, Nat.add_sub_cancel_left,
      Nat.add_sub_cancel_left, List.take_succ_cons, Vector.getElem_toList]
    rfl

/-- A run is read as its bytes are one by one, faults included. -/
theorem slice_eq_readEach (h : address ≤ memorySize ∨ 0 < length) :
    m.slice address length = m.readEach address length := by
  induction length generalizing address with
  | zero => exact slice_zero (h.resolve_right (Nat.lt_irrefl 0))
  | succ length ih =>
    rcases Nat.lt_or_ge address memorySize with hstart | hstart
    · rw [slice_succ_of_lt hstart, readEach_succ_of_lt hstart, ih (.inl hstart)]
    · have hend : memorySize < address + (length + 1) :=
        Nat.lt_of_le_of_lt hstart (Nat.lt_add_of_pos_right (Nat.succ_pos length))
      rw [slice_of_lt hend, readEach_succ_of_le hstart, outsideFault_of_le hstart]

/-! ## Writing one by one -/

/-- What an access to memory came to, and the memory that is there afterwards. One that is
    refused leaves it as it was. -/
def attempt (m : Memory) : Except Fault Memory → Except Fault Unit × Memory
  | .ok after => (.ok (), after)
  | .error fault => (.error fault, m)

/-- Writes bytes one by one from `address` on. The first that is refused is the last that is
    tried, and those before it stay written. -/
def writeEach (m : Memory) (address : Nat) : List UInt8 → Except Fault Unit × Memory
  | [] => (.ok (), m)
  | byte :: bytes =>
    match m.attempt (m.write address byte) with
    | (.ok (), after) => after.writeEach (address + 1) bytes
    | refused => refused

theorem writeEach_cons_of_lt (h : address < memorySize) :
    m.writeEach address (byte :: bytes) =
      writeEach ⟨m.cells.set address byte⟩ (address + 1) bytes := by
  rw [writeEach, write_of_lt h]
  rfl

theorem writeEach_cons_of_le (h : memorySize ≤ address) :
    m.writeEach address (byte :: bytes) = (.error (.addressOutOfRange address), m) := by
  rw [writeEach, write_of_le h]
  rfl

theorem writeBytes_nil (h : address ≤ memorySize) : m.writeBytes address [] = .ok m :=
  writeBytes_of_le h

theorem setIfInBounds_eq_set (cells : Vector UInt8 memorySize) (h : address < memorySize) :
    cells.setIfInBounds address byte = cells.set address byte := by
  refine Vector.ext fun a ha => ?_
  rw [Vector.getElem_setIfInBounds ha, Vector.getElem_set]

theorem writeBytes_cons_of_lt (h : address < memorySize) :
    m.writeBytes address (byte :: bytes) =
      writeBytes ⟨m.cells.set address byte⟩ (address + 1) bytes := by
  have hshift : address + 1 + bytes.length = address + (byte :: bytes).length :=
    Nat.succ_add_eq_add_succ address bytes.length
  rcases Nat.lt_or_ge memorySize (address + 1 + bytes.length) with hend | hend
  · rw [writeBytes_of_lt (hshift ▸ hend), writeBytes_of_lt hend, outsideFault_succ h]
  · rw [writeBytes_of_le (hshift ▸ hend), writeBytes_of_le hend, place, setIfInBounds_eq_set _ h]

/-- A run that is written is written one by one. -/
theorem writeEach_of_writeBytes (h : m.writeBytes address bytes = .ok after) :
    m.writeEach address bytes = (.ok (), after) := by
  induction bytes generalizing m address with
  | nil =>
    obtain ⟨-, rfl⟩ := writeBytes_eq_ok_iff.1 h
    rfl
  | cons byte bytes ih =>
    have hstart : address < memorySize :=
      Nat.lt_of_lt_of_le (Nat.lt_add_of_pos_right (Nat.succ_pos _)) (writeBytes_eq_ok_iff.1 h).1
    rw [writeBytes_cons_of_lt hstart] at h
    rw [writeEach_cons_of_lt hstart, ih h]

/-- A run that is refused is refused one by one, for the same reason. -/
theorem writeEach_of_refused (h : m.writeBytes address bytes = .error fault)
    (hbytes : bytes ≠ []) : (m.writeEach address bytes).1 = .error fault := by
  induction bytes generalizing m address with
  | nil => exact absurd rfl hbytes
  | cons byte bytes ih =>
    rcases Nat.lt_or_ge address memorySize with hstart | hstart
    · rw [writeBytes_cons_of_lt hstart] at h
      rw [writeEach_cons_of_lt hstart]
      refine ih h ?_
      -- a run of one byte that starts inside fits
      rintro rfl
      cases (writeBytes_nil hstart).symm.trans h
    · obtain ⟨-, rfl⟩ := writeBytes_eq_error_iff.1 h
      rw [writeEach_cons_of_le hstart, outsideFault_of_le hstart]

/-! ## Runs and single bytes -/

theorem exists_slice_iff :
    (∃ bytes, m.slice address length = .ok bytes) ↔ address + length ≤ memorySize := by
  simp only [slice_eq_ok_iff, exists_and_left, exists_eq', and_true]

theorem exists_writeBytes_iff :
    (∃ after, m.writeBytes address bytes = .ok after) ↔
      address + bytes.length ≤ memorySize := by
  simp only [writeBytes_eq_ok_iff, exists_and_left, exists_eq', and_true]

/-- The `length` bytes from `address` on are taken as a run exactly if each of them can be
    read, and then they are those that are read one by one; so it is with bytes that are
    written. A run that is refused changes nothing, and its fault names the lowest address
    outside, which is where one by one it would have come to an end. An empty run behind the
    end of memory has no byte outside, and is refused for its own address all the same. A
    program is loaded as the run from 0x200 on, or both are refused by its length. -/
theorem runs_refine_bytes (m : Memory) (address : Nat) :
    (∀ length,
      ((∃ bytes, m.slice address length = .ok bytes) ↔
          address ≤ 4096 ∧ m.Readable address length) ∧
        (∀ bytes, m.slice address length = .ok bytes → m.readEach address length = .ok bytes) ∧
        ∀ fault, m.slice address length = .error fault →
          (0 < length → m.readEach address length = .error fault) ∧
            ∃ a, fault = .addressOutOfRange a ∧ FirstOutside address length a) ∧
      (∀ bytes,
        ((∃ after, m.writeBytes address bytes = .ok after) ↔
            address ≤ 4096 ∧ m.Writable address bytes.length) ∧
          (∀ after, m.writeBytes address bytes = .ok after →
            m.writeEach address bytes = (.ok (), after)) ∧
          ∀ fault, m.writeBytes address bytes = .error fault →
            (m.attempt (m.writeBytes address bytes)).2 = m ∧
              (bytes ≠ [] → (m.writeEach address bytes).1 = .error fault) ∧
              ∃ a, fault = .addressOutOfRange a ∧ FirstOutside address bytes.length a) ∧
      ∀ program,
        (program.length ≤ 3584 →
            ∃ after, m.load program = .ok after ∧ m.writeBytes 0x200 program = .ok after) ∧
          (3584 < program.length →
            m.attempt (m.load program) = (.error (.programTooLarge program.length), m) ∧
              m.attempt (m.writeBytes 0x200 program) = (.error (.addressOutOfRange 4096), m)) := by
  refine ⟨fun length => ⟨?_, fun bytes h => ?_, fun fault h => ?_⟩,
    fun bytes => ⟨?_, fun after h => ?_, fun fault h => ?_⟩,
    fun program => ⟨fun hfits => ?_, fun hlong => ?_⟩⟩
  · exact exists_slice_iff.trans add_le_iff_readable
  · have hstart : address ≤ memorySize := Nat.le_of_add_right_le (slice_eq_ok_iff.1 h).1
    rw [← slice_eq_readEach (.inl hstart), h]
  · obtain ⟨hend, hfault⟩ := slice_eq_error_iff.1 h
    refine ⟨fun hlength => ?_, _, hfault, firstOutside_max hend⟩
    rw [← slice_eq_readEach (.inr hlength), h]
  · exact exists_writeBytes_iff.trans add_le_iff_writable
  · exact writeEach_of_writeBytes h
  · obtain ⟨hend, hfault⟩ := writeBytes_eq_error_iff.1 h
    refine ⟨?_, writeEach_of_refused h, _, hfault, firstOutside_max hend⟩
    rw [h, attempt]
  · rw [load_of_le hfits]
    obtain ⟨after, hwrite⟩ : ∃ after, m.writeBytes 0x200 program = .ok after :=
      exists_writeBytes_iff.2 (Nat.add_le_of_le_sub' (by decide) hfits)
    exact ⟨after, hwrite, hwrite⟩
  · have hend : memorySize < 0x200 + program.length :=
      (Nat.sub_lt_iff_lt_add' (by decide)).1 hlong
    rw [load_of_lt hlong, writeBytes_of_lt hend]
    exact ⟨rfl, rfl⟩

/-- Behind the end of memory an empty run is refused, though each of its bytes can be read
    and written, as there are none. -/
theorem emptyRun_refused :
    ¬((∃ bytes, fresh.slice 4097 0 = .ok bytes) ↔ fresh.Readable 4097 0) ∧
      ¬((∃ after, fresh.writeBytes 4097 [] = .ok after) ↔
        fresh.Writable 4097 ([] : List UInt8).length) := by
  have houtside : ¬4097 + 0 ≤ memorySize := by decide
  rw [exists_slice_iff, exists_writeBytes_iff]
  refine ⟨fun h => houtside (h.2 fun a ha hlt => ?_), fun h => houtside (h.2 fun a ha hlt => ?_)⟩
  all_goals exact absurd hlt (Nat.not_lt.2 ha)

/-- An empty run behind the end is refused for its own address, and one whose end does not
    fit 64 bits for the first address behind the end. Three bytes fit below the end; one byte
    further on they are refused together and one by one. A program of one byte too many
    leaves memory alone. -/
theorem runs_at_end :
    (fresh.slice 4097 0 = .error (.addressOutOfRange 4097) ∧ FirstOutside 4097 0 4097) ∧
      (fresh.slice 100 (UInt64.size - 84) = .error (.addressOutOfRange 4096) ∧
        0 < UInt64.size - 84 ∧
        fresh.readEach 100 (UInt64.size - 84) = .error (.addressOutOfRange 4096)) ∧
      (∃ after, fresh.writeBytes 4093 [1, 2, 3] = .ok after ∧
        fresh.writeEach 4093 [1, 2, 3] = (.ok (), after)) ∧
      (fresh.writeBytes 4094 [9, 9, 9] = .error (.addressOutOfRange 4096) ∧
        (fresh.attempt (fresh.writeBytes 4094 [9, 9, 9])).2 = fresh ∧
        (fresh.writeEach 4094 [9, 9, 9]).1 = .error (.addressOutOfRange 4096)) ∧
      3584 < (List.replicate 3585 (0xEE : UInt8)).length ∧
      (fresh.attempt (fresh.load (List.replicate 3585 0xEE))).2 = fresh := by
  have hempty : fresh.slice 4097 0 = .error (.addressOutOfRange 4097) := slice_of_lt (by decide)
  have hsum : fresh.slice 100 (UInt64.size - 84) = .error (.addressOutOfRange 4096) :=
    slice_of_lt (by decide)
  have hthree : fresh.writeBytes 4094 [9, 9, 9] = .error (.addressOutOfRange 4096) :=
    writeBytes_of_lt (by decide)
  have hfits : 4093 + ([1, 2, 3] : List UInt8).length ≤ memorySize := by decide
  have hlong : 3584 < (List.replicate 3585 (0xEE : UInt8)).length := by
    rw [List.length_replicate]
    decide
  refine ⟨⟨hempty, ?_⟩, ⟨hsum, by decide, ?_⟩, ?_, ⟨hthree, ?_⟩, hlong, ?_⟩
  · obtain ⟨hread, -⟩ := runs_refine_bytes fresh 4097
    obtain ⟨-, a, ha, hfirst⟩ := (hread 0).2.2 _ hempty
    cases ha
    exact hfirst
  · obtain ⟨hread, -⟩ := runs_refine_bytes fresh 100
    exact ((hread _).2.2 _ hsum).1 (by decide)
  · obtain ⟨-, hwrite, -⟩ := runs_refine_bytes fresh 4093
    obtain ⟨after, hafter⟩ := exists_writeBytes_iff.2 hfits
    exact ⟨after, hafter, (hwrite _).2.1 after hafter⟩
  · obtain ⟨-, hwrite, -⟩ := runs_refine_bytes fresh 4094
    obtain ⟨hkept, heach, -⟩ := (hwrite _).2.2 _ hthree
    exact ⟨hkept, heach (List.cons_ne_nil _ _)⟩
  · obtain ⟨-, -, hload⟩ := runs_refine_bytes fresh 0
    rw [((hload _).2 hlong).1]

end Chip8.Memory

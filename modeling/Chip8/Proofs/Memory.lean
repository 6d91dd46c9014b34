-- SUMMARY: When reading and writing memory succeeds, with what fault it fails otherwise, and what is written.
import Chip8.Memory

/-! # Memory access

Single bytes and runs are accessed exactly where they lie inside of memory, and
the fault of every other access is known. -/

namespace Chip8.Memory

variable {m after : Memory} {address length a : Nat} {fault : Fault}

/-- Places in memory have numerals. -/
instance neZero : @NeZero Nat Zero.ofOfNat0 memorySize := ⟨Nat.succ_ne_zero 4095⟩

theorem read_of_lt (h : address < memorySize) : m.read address = .ok m.cells[address] := by
  simp [read, h]

theorem read_of_le (h : memorySize ≤ address) :
    m.read address = .error (.addressOutOfRange address) := by
  simp [read, Nat.not_lt.2 h]

theorem write_of_lt {byte : UInt8} (h : address < memorySize) :
    m.write address byte = .ok ⟨m.cells.set address byte⟩ :=
  dif_pos h

theorem write_of_le {byte : UInt8} (h : memorySize ≤ address) :
    m.write address byte = .error (.addressOutOfRange address) :=
  dif_neg (Nat.not_lt.2 h)

/-- Memory is what is read from it. -/
theorem eq_of_read_eq (h : ∀ a, m.read a = after.read a) : m = after := by
  obtain ⟨cells⟩ := m
  obtain ⟨cells'⟩ := after
  refine congrArg mk (Vector.ext fun a ha => ?_)
  have hread := h a
  rwa [read_of_lt ha, read_of_lt ha, Except.ok.injEq] at hread

/-- Memory ends far below the highest end, so a sum that does not fit is never inside. -/
theorem inside_iff : inside address length = true ↔ address + length ≤ memorySize := by
  rw [inside, decide_eq_true_iff, runEnd, Std.min_le]
  exact or_iff_left (by decide)

theorem runEnd_of_le (h : address + length ≤ memorySize) :
    runEnd address length = address + length :=
  Nat.min_eq_left (Nat.le_trans h (by decide))

theorem slice_of_le (h : address + length ≤ memorySize) :
    m.slice address length = .ok (m.cells.extract address (address + length)).toList := by
  rw [slice, if_pos (inside_iff.2 h), runEnd_of_le h]

theorem slice_of_lt (h : memorySize < address + length) :
    m.slice address length = .error (outsideFault address) := by
  rw [slice, if_neg (mt inside_iff.1 (Nat.not_le.2 h))]

theorem slice_eq_ok_iff {bytes : List UInt8} :
    m.slice address length = .ok bytes ↔
      address + length ≤ memorySize ∧
        (m.cells.extract address (address + length)).toList = bytes := by
  rcases Nat.lt_or_ge memorySize (address + length) with h | h
  · simp [slice_of_lt h, Nat.not_le.2 h]
  · simp [slice_of_le h, h]

theorem length_of_slice {bytes : List UInt8} (h : m.slice address length = .ok bytes) :
    bytes.length = length := by
  obtain ⟨hinside, rfl⟩ := slice_eq_ok_iff.1 h
  rw [Vector.length_toList, Nat.min_eq_left hinside, Nat.add_sub_cancel_left]

/-- A run that is taken holds the bytes from its address on. -/
theorem getElem?_slice_iff {bytes : List UInt8} {byte : UInt8} {k : Nat}
    (h : m.slice address length = .ok bytes) :
    bytes[k]? = some byte ↔ k < length ∧ m.read (address + k) = .ok byte := by
  obtain ⟨hinside, rfl⟩ := slice_eq_ok_iff.1 h
  have hlength : min (address + length) memorySize - address = length := by omega
  rw [Vector.getElem?_toList, Vector.getElem?_extract, hlength]
  by_cases hk : k < length
  · have ha : address + k < memorySize := by omega
    simp [hk, read_of_lt ha, Vector.getElem?_eq_getElem ha]
  · simp [hk]

theorem slice_eq_error_iff :
    m.slice address length = .error fault ↔
      memorySize < address + length ∧ fault = outsideFault address := by
  rcases Nat.lt_or_ge memorySize (address + length) with h | h
  · simp [slice_of_lt h, h, eq_comm]
  · simp [slice_of_le h, Nat.not_lt.2 h]

theorem writeBytes_of_le {bytes : List UInt8} (h : address + bytes.length ≤ memorySize) :
    m.writeBytes address bytes = .ok ⟨place m.cells address bytes⟩ := by
  rw [writeBytes, if_pos (inside_iff.2 h)]

theorem writeBytes_of_lt {bytes : List UInt8} (h : memorySize < address + bytes.length) :
    m.writeBytes address bytes = .error (outsideFault address) := by
  rw [writeBytes, if_neg (mt inside_iff.1 (Nat.not_le.2 h))]

theorem writeBytes_eq_ok_iff {bytes : List UInt8} {after : Memory} :
    m.writeBytes address bytes = .ok after ↔
      address + bytes.length ≤ memorySize ∧ ⟨place m.cells address bytes⟩ = after := by
  rcases Nat.lt_or_ge memorySize (address + bytes.length) with h | h
  · simp [writeBytes_of_lt h, Nat.not_le.2 h]
  · simp [writeBytes_of_le h, h]

theorem writeBytes_eq_error_iff {bytes : List UInt8} :
    m.writeBytes address bytes = .error fault ↔
      memorySize < address + bytes.length ∧ fault = outsideFault address := by
  rcases Nat.lt_or_ge memorySize (address + bytes.length) with h | h
  · simp [writeBytes_of_lt h, h, eq_comm]
  · simp [writeBytes_of_le h, Nat.not_lt.2 h]

/-! ## Bytes that are written -/

/-- Bytes that are placed lie from their address on, and all others stay. -/
theorem getElem_place (cells : Vector UInt8 memorySize) (address : Nat) (bytes : List UInt8)
    (ha : a < memorySize) :
    (place cells address bytes)[a] =
      if address ≤ a then (bytes[a - address]?).getD cells[a] else cells[a] := by
  induction bytes generalizing cells address with
  | nil => simp [place]
  | cons byte bytes ih =>
    rw [place, ih, Vector.getElem_setIfInBounds ha]
    rcases Nat.lt_trichotomy a address with hbelow | rfl | habove
    · have hnext : ¬address + 1 ≤ a := fun h => Nat.lt_asymm hbelow h
      rw [if_neg hnext, if_neg (Nat.not_le.2 hbelow), if_neg (Nat.ne_of_gt hbelow)]
    · rw [if_neg (Nat.not_succ_le_self a), if_pos rfl, if_pos (Nat.le_refl a), Nat.sub_self,
        List.getElem?_cons_zero, Option.getD_some]
    · have hindex : a - address = a - (address + 1) + 1 := by omega
      rw [if_pos (Nat.succ_le_of_lt habove), if_pos (Nat.le_of_lt habove),
        if_neg (Nat.ne_of_lt habove), hindex, List.getElem?_cons_succ]

/-- A run that is written lies from its address on. -/
theorem read_of_writeBytes_inside {bytes : List UInt8} {byte : UInt8} {k : Nat}
    (h : m.writeBytes address bytes = .ok after) (hk : bytes[k]? = some byte) :
    after.read (address + k) = .ok byte := by
  obtain ⟨hinside, rfl⟩ := writeBytes_eq_ok_iff.1 h
  have hlt : k < bytes.length := (List.getElem?_eq_some_iff.1 hk).1
  have ha : address + k < memorySize := by omega
  rw [read_of_lt ha, getElem_place, if_pos (Nat.le_add_right address k), Nat.add_sub_cancel_left,
    hk, Option.getD_some]

/-- A run that is written changes no byte outside of it. -/
theorem read_of_writeBytes {bytes : List UInt8} (h : m.writeBytes address bytes = .ok after)
    (hout : a < address ∨ address + bytes.length ≤ a) : after.read a = m.read a := by
  obtain ⟨-, rfl⟩ := writeBytes_eq_ok_iff.1 h
  rcases Nat.lt_or_ge a memorySize with ha | ha
  · rw [read_of_lt ha, read_of_lt ha, getElem_place]
    rcases hout with hbelow | habove
    · rw [if_neg (Nat.not_le.2 hbelow)]
    · have hnone : bytes[a - address]? = none := List.getElem?_eq_none (by omega)
      rw [hnone, Option.getD_none, ite_self]
  · rw [read_of_le ha, read_of_le ha]

/-! ## Programs -/

/-- A program that fits is a run that is written where programs start. -/
theorem load_of_le {program : List UInt8} (h : program.length ≤ programLimit) :
    m.load program = m.writeBytes programStart program := by
  have hinside : programStart + program.length ≤ memorySize := Nat.add_le_of_le_sub' (by decide) h
  rw [writeBytes_of_le hinside, load, if_neg (Nat.not_lt.2 h)]

theorem load_of_lt {program : List UInt8} (h : programLimit < program.length) :
    m.load program = .error (.programTooLarge program.length) := by
  rw [load, if_pos h]

end Chip8.Memory

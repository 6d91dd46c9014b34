-- SUMMARY: The sprite at I: which pixels it covers, and what drawing it comes to.
import Chip8.Proofs.Machine.Registers
import Chip8.Proofs.Machine.Step

/-! # The sprite at I

The rows of a sprite are bytes of memory and its corner is in two registers. A
sprite that lies inside of memory is drawn, and any other is not. -/

namespace Chip8

namespace Machine

variable {m : Machine} {n : Nibble} {row : Nat} {bits : UInt8} {p : Fin displaySize}

/-- A bit of a row of the sprite at I is set. -/
def SpriteBit (m : Machine) (row column : Nat) : Prop :=
  ∃ bits, m.memory.read (m.index.toNat + row) = .ok bits ∧ spriteBit bits column = true

/-- The rows of a sprite are the bytes from I on. -/
theorem spriteRow_iff (h : m.index.toNat + n ≤ memorySize) :
    (m.memory.cells.extract m.index.toNat (m.index.toNat + n)).toList[row]? = some bits ↔
      row < n ∧ m.memory.read (m.index.toNat + row) = .ok bits :=
  Memory.getElem?_slice_iff (Memory.slice_of_le h)

/-- A drawn sprite covers the pixels under its set bits, unless they lie beyond an
    edge that clips. -/
theorem mem_spritePixels_iff {x y : Register} (h : m.index.toNat + n ≤ memorySize) :
    p ∈ m.spritePixels x y n ↔
      ∃ row column, row < n.val ∧ column < 8 ∧ m.SpriteBit row column ∧
        (m.edge = .clip → (m.register x).toNat + column < displayWidth) ∧
        p.val = pixelIndex ((m.register x).toNat + column) ((m.register y).toNat + row) := by
  simp only [spritePixels, mem_covered_iff, spriteRow_iff h, spritePixel?_eq_some_iff, SpriteBit]
  constructor
  · rintro ⟨row, column, bits, ⟨hrow, hread⟩, hcolumn, hset, hp⟩
    exact ⟨row, column, hrow, hcolumn, ⟨bits, hread, hset⟩, hp⟩
  · rintro ⟨row, column, hrow, hcolumn, ⟨bits, hread, hset⟩, hp⟩
    exact ⟨row, column, bits, ⟨hrow, hread⟩, hcolumn, hset, hp⟩

theorem nodup_spritePixels (m : Machine) (x y : Register) (n : Nibble) :
    (m.spritePixels x y n).Nodup :=
  nodup_covered _ _ _ _

/-- A sprite that lies inside of memory is drawn. -/
theorem execute_draw_of_inside {x y : Register} (h : m.index.toNat + n ≤ memorySize)
    (byte : UInt8) :
    m.execute byte (.draw x y n) =
      ⟨.ok .proceed, { m with display := m.display.toggleAll (m.spritePixels x y n) }.setFlag
        (m.display.anyLit (m.spritePixels x y n)), []⟩ := by
  refine execute_of_ok ?_
  rw [effect, executeDraw_eq, Memory.slice_of_le h]
  rfl

/-- A sprite that does not is not. -/
theorem execute_draw_of_outside {x y : Register} (h : memorySize < m.index.toNat + n)
    (byte : UInt8) :
    m.execute byte (.draw x y n) = ⟨.error (Memory.outsideFault m.index.toNat), m, []⟩ := by
  refine execute_of_error ?_
  rw [effect, executeDraw, Memory.slice_of_lt h]
  rfl

end Machine

end Chip8

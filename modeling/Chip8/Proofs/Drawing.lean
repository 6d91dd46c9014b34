-- SUMMARY: A sprite inverts the pixels under its set bits and no others, and VF tells whether one was lit.
import Chip8.Proofs.Savable
import Chip8.Proofs.Machine.Sprite

/-! # Drawing

The sprite at I is drawn with its corner at VX, VY, as these are before anything is
written, so VF may be one of the two. Every pixel under a set bit is inverted, once,
and then VF is set. Nothing else changes. -/

namespace Chip8.Machine

/-- The sprite of `n` rows at I, with its corner at VX, VY, has a set bit on a pixel. Its
    columns are counted on through the rows of the display, unless the edge clips them. -/
def Covers (m : Machine) (x y : Register) (n : Nibble) (p : Fin displaySize) : Prop :=
  ∃ row column bits, row < n.val ∧ column < 8 ∧
    m.memory.read (m.index.toNat + row) = .ok bits ∧ bits.toNat.testBit (7 - column) = true ∧
    p.val = ((m.register y).toNat + row) * 64 + ((m.register x).toNat + column) ∧
    (m.edge = .spill ∨ (m.register x).toNat + column < 64)

variable {m : Machine} {x y : Register} {n : Nibble} {p : Fin displaySize}

theorem mem_spritePixels_iff_covers (h : m.index.toNat + n ≤ memorySize) :
    p ∈ m.spritePixels x y n ↔ m.Covers x y n p := by
  have hedge (column : Nat) : (m.edge = .clip → (m.register x).toNat + column < displayWidth) ↔
      (m.edge = .spill ∨ (m.register x).toNat + column < 64) := by
    cases m.edge <;> simp
  rw [mem_spritePixels_iff h]
  simp only [hedge]
  constructor
  · rintro ⟨row, column, hrow, hcolumn, ⟨bits, hread, hset⟩, hwithin, hp⟩
    exact ⟨row, column, bits, hrow, hcolumn, hread, hset, hp, hwithin⟩
  · rintro ⟨row, column, bits, hrow, hcolumn, hread, hset, hp, hwithin⟩
    exact ⟨row, column, hrow, hcolumn, ⟨bits, hread, hset⟩, hwithin, hp⟩

/-- A pixel that is lit goes dark, and one that is dark is lit. -/
theorem xor_lit_of_pixel {byte : UInt8} (h : byte = 0 ∨ byte = lit) :
    byte ^^^ lit = if byte = lit then 0 else lit := by
  rcases h with rfl | rfl <;> decide

/-- A sprite that lies inside of memory is drawn: the pixels under its set bits are
    inverted and all others stay as they are, VF tells whether one of them was lit, and
    of all the rest nothing changes. -/
theorem draw_inverts_covered (hpixels : m.display.Crisp) (h : m.index.toNat + n ≤ 4096)
    (byte : UInt8) :
    let drawn := (m.execute byte (.draw x y n)).machine
    (m.execute byte (.draw x y n)).result = .ok .proceed ∧
      (∀ p, m.Covers x y n p →
        drawn.display.pixels.get p = if m.display.pixels.get p = 255 then 0 else 255) ∧
      (∀ p, ¬m.Covers x y n p → drawn.display.pixels.get p = m.display.pixels.get p) ∧
      ((∃ p, m.Covers x y n p ∧ m.display.pixels.get p = 255) → drawn.register 0xF = 1) ∧
      ((¬∃ p, m.Covers x y n p ∧ m.display.pixels.get p = 255) → drawn.register 0xF = 0) ∧
      (∀ k, k ≠ 0xF → drawn.register k = m.register k) ∧
      drawn = { m with display := drawn.display, registers := drawn.registers } := by
  intro drawn
  have hdrawn := execute_draw_of_inside (x := x) (y := y) h byte
  have hlit : m.display.anyLit (m.spritePixels x y n) = true ↔
      ∃ p, m.Covers x y n p ∧ m.display.pixels.get p = 255 := by
    simp only [Display.anyLit_iff, mem_spritePixels_iff_covers h]
  simp only [drawn, hdrawn]
  refine ⟨trivial, ?_, ?_, ?_, ?_, ?_, rfl⟩
  · intro p hp
    have hinverted := Display.get_toggleAll_of_mem (d := m.display) (nodup_spritePixels m x y n)
      ((mem_spritePixels_iff_covers h).2 hp)
    exact hinverted.trans (xor_lit_of_pixel (hpixels p))
  · intro p hp
    exact Display.get_toggleAll_of_not_mem fun hmem => hp ((mem_spritePixels_iff_covers h).1 hmem)
  · intro hsome
    rw [setFlag_register, hlit.2 hsome]
    rfl
  · intro hnone
    rw [setFlag_register, Bool.eq_false_iff.2 (mt hlit.1 hnone)]
    rfl
  · intro k hk
    exact setFlag_register_of_ne _ _ hk

/-- A machine with a sprite of three pixels at I. VF is 62, and the first pixel of the
    second row of the display is lit. -/
def smudged : Machine :=
  { start .spill with
    memory := ⟨Vector.ofFn fun a => if a = 0 then 0xE0 else 0⟩
    registers := (Vector.replicate 16 0).set 0xF 62
    display := Display.blank.toggle ⟨64, by decide⟩ }

/-- Drawn from column 62 on, which is VF, the last of the three pixels falls on the lit
    one and VF becomes 1. -/
theorem smudged_draw_flags :
    smudged.display.Crisp ∧ smudged.index.toNat + (1 : Nibble) ≤ 4096 ∧
      (smudged.execute 0 (.draw 0xF 0 1)).machine.display.pixels.get ⟨64, by decide⟩ = 0 ∧
      (smudged.execute 0 (.draw 0xF 0 1)).machine.register 0xF = 1 := by
  have hpixels : smudged.display.Crisp := Display.crisp_blank.toggle _
  have hinside : smudged.index.toNat + (1 : Nibble) ≤ 4096 := by decide
  have hlit : smudged.display.pixels.get ⟨64, by decide⟩ = 255 := by
    have hblank : Display.blank.pixels.get ⟨64, by decide⟩ = 0 := Vector.getElem_replicate _
    rw [smudged, Display.get_toggle, if_pos rfl, hblank]
    rfl
  have hread : smudged.memory.read 0 = .ok 0xE0 := by
    simp [smudged, Memory.read, Vector.getElem_ofFn]
  have hcovers : smudged.Covers 0xF 0 1 ⟨64, by decide⟩ :=
    ⟨0, 2, 0xE0, by decide, by decide, hread, by decide, by decide, .inl rfl⟩
  obtain ⟨-, hinverts, -, hflag, -⟩ :=
    draw_inverts_covered (x := 0xF) (y := 0) hpixels hinside 0
  refine ⟨hpixels, hinside, ?_, hflag ⟨_, hcovers, hlit⟩⟩
  rw [hinverts _ hcovers, hlit]
  rfl

end Chip8.Machine

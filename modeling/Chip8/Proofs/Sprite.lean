-- SUMMARY: Which pixels a sprite covers, and that the loop over its rows and columns inverts these once each.
import Chip8.Machine.Sprite
import Mathlib.Data.List.Nodup

/-! # Sprites on a display

A set bit of a sprite covers one pixel, and no two bits cover the same one. A row
that comes to a column without a pixel has none in the columns behind it either.
So drawing column by column inverts every covered pixel exactly once, and whether
one of them was lit can be told from the display before. -/

namespace Chip8

/-! ## Covered pixels -/

/-- The pixels that one row of a sprite covers. -/
def coveredByRow (edge : SpriteEdge) (x y row : Nat) (bits : UInt8) : List (Fin displaySize) :=
  (List.range 8).filterMap fun column =>
    if spriteBit bits column then spritePixel? edge x y row column else none

/-- The pixels that a sprite at `x`, `y` covers. -/
def covered (edge : SpriteEdge) (x y : Nat) (sprite : List UInt8) : List (Fin displaySize) :=
  sprite.zipIdx.flatMap fun (bits, row) => coveredByRow edge x y row bits

variable {edge : SpriteEdge} {x y row column : Nat} {bits : UInt8} {sprite : List UInt8}
  {p : Fin displaySize}

theorem spritePixel?_eq_some_iff :
    spritePixel? edge x y row column = some p ↔
      (edge = .clip → x + column < displayWidth) ∧
        p.val = pixelIndex (x + column) (y + row) := by
  unfold spritePixel?
  by_cases hclipped : edge = .clip ∧ displayWidth ≤ x + column
  · simp [hclipped, Nat.not_lt.2 hclipped.2]
  · have hinside : edge = .clip → x + column < displayWidth := fun hedge =>
      Nat.lt_of_not_le fun hle => hclipped ⟨hedge, hle⟩
    rw [if_neg hclipped]
    constructor
    · intro h
      dsimp only at h
      split at h <;> cases h
      exact ⟨hinside, rfl⟩
    · rintro ⟨-, hp⟩
      have hplace : pixelIndex (x + column) (y + row) < displaySize := hp ▸ p.isLt
      rw [dif_pos hplace, Option.some.injEq]
      exact Fin.ext hp.symm

theorem mem_coveredByRow_iff :
    p ∈ coveredByRow edge x y row bits ↔
      ∃ column, column < 8 ∧ spriteBit bits column = true ∧
        spritePixel? edge x y row column = some p := by
  simp [coveredByRow, List.mem_filterMap, Option.ite_none_right_eq_some]

theorem mem_covered_iff :
    p ∈ covered edge x y sprite ↔
      ∃ row column bits, sprite[row]? = some bits ∧ column < 8 ∧
        spriteBit bits column = true ∧ spritePixel? edge x y row column = some p := by
  simp only [covered, List.mem_flatMap, Prod.exists, List.mem_zipIdx_iff_getElem?,
    mem_coveredByRow_iff]
  constructor
  · rintro ⟨bits, row, hbits, column, h⟩
    exact ⟨row, column, bits, hbits, h⟩
  · rintro ⟨row, column, bits, hbits, h⟩
    exact ⟨bits, row, hbits, column, h⟩

/-- The columns of a sprite are fewer than those of the display, so its bits fall on
    different pixels. -/
theorem pixelIndex_inj {row' column' : Nat} (hcolumn : column < 8) (hcolumn' : column' < 8)
    (h : pixelIndex (x + column) (y + row) = pixelIndex (x + column') (y + row')) :
    row = row' ∧ column = column' := by
  simp only [pixelIndex, displayWidth] at h
  omega

theorem nodup_coveredByRow (edge : SpriteEdge) (x y row : Nat) (bits : UInt8) :
    (coveredByRow edge x y row bits).Nodup := by
  refine List.Nodup.filterMap ?_ List.nodup_range
  intro column column' p h h'
  rw [Option.mem_def, Option.ite_none_right_eq_some, spritePixel?_eq_some_iff] at h h'
  have hsame := h.2.2.symm.trans h'.2.2
  simp only [pixelIndex] at hsame
  omega

/-- No pixel is covered twice. -/
theorem nodup_covered (edge : SpriteEdge) (x y : Nat) (sprite : List UInt8) :
    (covered edge x y sprite).Nodup := by
  have hrows : sprite.zipIdx.Pairwise fun a b => a.2 ≠ b.2 := by
    refine List.pairwise_map.1 ?_
    rw [List.zipIdx_map_snd]
    exact List.nodup_range' 1
  refine List.nodup_flatMap.2 ⟨?_, hrows.imp ?_⟩
  · intro a _
    exact nodup_coveredByRow edge x y a.2 a.1
  · intro a b hne p hp hp'
    obtain ⟨column, hcolumn, -, hpixel⟩ := mem_coveredByRow_iff.1 hp
    obtain ⟨column', hcolumn', -, hpixel'⟩ := mem_coveredByRow_iff.1 hp'
    have hsame := (spritePixel?_eq_some_iff.1 hpixel).2.symm.trans
      (spritePixel?_eq_some_iff.1 hpixel').2
    exact hne (pixelIndex_inj hcolumn hcolumn' hsame).1

/-- Without a set bit beyond the right edge, it does not matter how that is treated. -/
theorem covered_eq_of_within (edge' : SpriteEdge)
    (h : ∀ (row column : Nat) (bits : UInt8), sprite[row]? = some bits → column < 8 →
      spriteBit bits column = true → x + column < displayWidth) :
    covered edge x y sprite = covered edge' x y sprite := by
  refine List.flatMap_congr ?_
  intro a ha
  have hrow : sprite[a.2]? = some a.1 := List.mem_zipIdx_iff_getElem?.1 ha
  refine List.filterMap_congr ?_
  intro column hcolumn
  by_cases hset : spriteBit a.1 column = true
  · have hwithin := h a.2 column a.1 hrow (List.mem_range.1 hcolumn) hset
    simp [hset, spritePixel?, Nat.not_le.2 hwithin]
  · simp [hset]

/-! ## Inverted pixels -/

namespace Display

/-- Inverts pixels one after another. -/
def toggleAll (d : Display) (pixels : List (Fin displaySize)) : Display :=
  pixels.foldl toggle d

/-- Whether one of some pixels is lit. -/
def anyLit (d : Display) (pixels : List (Fin displaySize)) : Bool :=
  pixels.any fun p => d.pixels.get p == lit

variable {d : Display} {pixels : List (Fin displaySize)}

theorem get_toggle (d : Display) (p q : Fin displaySize) :
    (d.toggle q).pixels.get p = if q = p then d.pixels.get p ^^^ lit else d.pixels.get p := by
  have hset : (d.toggle q).pixels.get p =
      if q.val = p.val then d.pixels.get q ^^^ lit else d.pixels.get p :=
    Vector.getElem_set q.isLt p.isLt
  rw [hset]
  by_cases h : q = p
  · rw [if_pos h, if_pos (congrArg Fin.val h), h]
  · rw [if_neg h, if_neg (fun hval => h (Fin.ext hval))]

/-- A pixel that is inverted an even number of times is as before. -/
theorem get_toggleAll (d : Display) (pixels : List (Fin displaySize)) (p : Fin displaySize) :
    (d.toggleAll pixels).pixels.get p =
      if pixels.count p % 2 = 1 then d.pixels.get p ^^^ lit else d.pixels.get p := by
  induction pixels generalizing d with
  | nil => rfl
  | cons q pixels ih =>
    have hall : (d.toggleAll (q :: pixels)).pixels.get p =
        ((d.toggle q).toggleAll pixels).pixels.get p := rfl
    rw [hall, ih, get_toggle, List.count_cons]
    by_cases hq : q = p
    · subst hq
      rcases Nat.mod_two_eq_zero_or_one (pixels.count q) with heven | hodd
      · have hone : (pixels.count q + 1) % 2 = 1 := by omega
        simp [heven, hone]
      · have hzero : ¬(pixels.count q + 1) % 2 = 1 := by omega
        rw [if_pos hodd, if_pos rfl, if_pos (beq_self_eq_true q), if_neg hzero, UInt8.xor_assoc,
          UInt8.xor_self, UInt8.xor_zero]
    · simp [hq]

theorem get_toggleAll_of_mem (h : pixels.Nodup) (hp : p ∈ pixels) :
    (d.toggleAll pixels).pixels.get p = d.pixels.get p ^^^ lit := by
  rw [get_toggleAll, List.count_eq_one_of_mem h hp]
  rfl

theorem get_toggleAll_of_not_mem (hp : p ∉ pixels) :
    (d.toggleAll pixels).pixels.get p = d.pixels.get p := by
  rw [get_toggleAll, List.count_eq_zero_of_not_mem hp]
  rfl

/-- No byte is its own inverse. -/
theorem xor_lit_ne (byte : UInt8) : byte ^^^ lit ≠ byte := by
  intro h
  have hzero : lit = 0 := by
    rw [← UInt8.xor_zero (a := lit), ← UInt8.xor_self (a := byte), ← UInt8.xor_assoc,
      UInt8.xor_comm lit byte, h]
  exact absurd hzero (by decide)

theorem anyLit_iff : d.anyLit pixels = true ↔ ∃ p ∈ pixels, d.pixels.get p = lit := by
  simp [anyLit]

/-- Whether some pixels are lit does not depend on the others. -/
theorem anyLit_toggle_of_not_mem (hp : p ∉ pixels) :
    (d.toggle p).anyLit pixels = d.anyLit pixels := by
  rw [Bool.eq_iff_iff, anyLit_iff, anyLit_iff]
  refine exists_congr fun q => and_congr_right fun hq => ?_
  have hne : p ≠ q := fun heq => hp (heq ▸ hq)
  rw [get_toggle, if_neg hne]

theorem xor_lit_eq_lit_iff {byte : UInt8} : byte ^^^ lit = lit ↔ byte = 0 := by
  have hcancel := UInt8.xor_left_inj (a := byte) (b := 0) lit
  rwa [UInt8.zero_xor] at hcancel

/-- Among inverted pixels those are lit that were dark. -/
theorem anyLit_toggleAll_iff (h : pixels.Nodup) :
    (d.toggleAll pixels).anyLit pixels = true ↔ ∃ p ∈ pixels, d.pixels.get p = 0 := by
  rw [anyLit_iff]
  refine exists_congr fun p => and_congr_right fun hp => ?_
  rw [get_toggleAll_of_mem h hp]
  exact xor_lit_eq_lit_iff

end Display

/-! ## The loop -/

/-- The columns behind one without a pixel have none either. -/
theorem spritePixel?_eq_none_of_le {column' : Nat} (hle : column ≤ column')
    (h : spritePixel? edge x y row column = none) : spritePixel? edge x y row column' = none := by
  cases hlater : spritePixel? edge x y row column' with
  | none => rfl
  | some p =>
    obtain ⟨hwithin, hplace⟩ := spritePixel?_eq_some_iff.1 hlater
    have hcolumns : x + column ≤ x + column' := Nat.add_le_add_left hle x
    have hinside : pixelIndex (x + column) (y + row) < displaySize :=
      Nat.lt_of_le_of_lt (hplace ▸ Nat.add_le_add_left hcolumns _) p.isLt
    have hpixel : spritePixel? edge x y row column = some ⟨_, hinside⟩ :=
      spritePixel?_eq_some_iff.2
        ⟨fun hedge => Nat.lt_of_le_of_lt hcolumns (hwithin hedge), rfl⟩
    rw [h] at hpixel
    cases hpixel

namespace Drawing

variable {pixels : List (Fin displaySize)}

/-- Columns from left to right are drawn as the pixels under their set bits. -/
theorem drawColumns_eq {columns : List Nat} (hcolumns : columns.Pairwise (· ≤ ·)) (d : Drawing) :
    d.drawColumns edge x y row bits columns =
      (columns.filterMap fun column =>
        if spriteBit bits column then spritePixel? edge x y row column else none).foldl
          invert d := by
  induction columns generalizing d with
  | nil => rfl
  | cons column columns ih =>
    obtain ⟨hlater, hrest⟩ := List.pairwise_cons.1 hcolumns
    rw [drawColumns]
    cases hpixel : spritePixel? edge x y row column with
    | none =>
      -- the loop ends the row here, and no column from here on covers a pixel
      have hnone : ∀ column' ∈ column :: columns, spritePixel? edge x y row column' = none := by
        intro column' hmem
        rcases List.mem_cons.1 hmem with rfl | hmem
        · exact hpixel
        · exact spritePixel?_eq_none_of_le (hlater column' hmem) hpixel
      have hcovered : (column :: columns).filterMap (fun column =>
          if spriteBit bits column then spritePixel? edge x y row column else none) = [] := by
        refine List.filterMap_eq_nil_iff.2 fun column' hmem => ?_
        rw [hnone column' hmem, ite_self]
      rw [hcovered]
      rfl
    | some p =>
      cases hset : spriteBit bits column with
      | false => simp [hset, ih hrest]
      | true => simp [hset, hpixel, ih hrest]

theorem drawRow_eq (d : Drawing) :
    d.drawRow edge x y row bits = (coveredByRow edge x y row bits).foldl invert d :=
  drawColumns_eq List.pairwise_le_range d

theorem drawRows_eq (d : Drawing) :
    d.drawRows edge x y sprite = (covered edge x y sprite).foldl invert d := by
  simp only [drawRows, drawRow_eq, covered, List.foldl_flatMap]

/-- The loop notices a lit pixel when it comes to it. As no pixel comes twice, it
    was lit from the start. -/
theorem foldl_invert (h : pixels.Nodup) (d : Drawing) :
    pixels.foldl invert d =
      ⟨d.display.toggleAll pixels, d.erased || d.display.anyLit pixels⟩ := by
  induction pixels generalizing d with
  | nil => simp [Display.toggleAll, Display.anyLit]
  | cons p pixels ih =>
    obtain ⟨hp, hpixels⟩ := List.nodup_cons.1 h
    have hlit : (d.display.toggle p).anyLit pixels = d.display.anyLit pixels :=
      Display.anyLit_toggle_of_not_mem hp
    rw [List.foldl_cons, ih hpixels]
    simp only [invert, hlit, Bool.or_assoc]
    rfl

/-- Drawing row by row and column by column inverts what the sprite covers, and
    erases a lit pixel when one of these was lit before. -/
theorem drawRows_start (d : Display) (edge : SpriteEdge) (x y : Nat) (sprite : List UInt8) :
    drawRows edge x y sprite ⟨d, false⟩ =
      ⟨d.toggleAll (covered edge x y sprite), d.anyLit (covered edge x y sprite)⟩ := by
  rw [drawRows_eq, foldl_invert (nodup_covered edge x y sprite), Bool.false_or]

end Drawing

end Chip8

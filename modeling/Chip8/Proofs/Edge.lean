-- SUMMARY: How the right edge is treated shows only in sprites that reach beyond it.
import Chip8.Proofs.Machine.Periphery
import Chip8.Proofs.Requests

/-! # The right edge

Two machines that differ in their treatment of the right edge alone go on differing
in nothing else, as long as no sprite is drawn with a set bit beyond that edge. A
sprite with such bits is drawn by both or by none, and the pixels on which they
disagree afterwards are the ones under these bits. -/

namespace Chip8

/-- The machine with another treatment of the right edge. -/
def Machine.withEdge (m : Machine) (edge : SpriteEdge) : Machine := { m with edge := edge }

/-- A sprite that a machine is about to draw has no set bit beyond the right edge. -/
def Machine.DrawsWithin (m : Machine) : Prop :=
  ∀ x y n, m.Fetches (.draw x y n) → ¬m.Overhangs x n

/-- What came of an operation, with another treatment of the right edge. -/
def Turn.withEdge (t : Turn) (edge : SpriteEdge) : Turn :=
  { t with machine := t.machine.withEdge edge }

namespace Machine

variable {m : Machine} {edge : SpriteEdge} {x y : Register} {n : Nibble}

/-! ## Requests -/

theorem step_withEdge (h : m.DrawsWithin) (edge : SpriteEdge) (byte : UInt8) :
    (m.withEdge edge).step byte =
      { m.step byte with machine := (m.step byte).machine.withEdge edge } := by
  have hoverlooks : ∀ i, m.Fetches i → m.Overlooks { m.periphery with edge := edge } i := by
    intro i hi
    cases i with
    | draw x y n => exact .inr (h x y n hi)
    | skipPressed | skipReleased | awaitKey | readDelay => exact rfl
    | _ => trivial
  have hstep := step_withPeriphery (.inr rfl) hoverlooks byte
  rw [peripheryAfterStep_edge, ← step_periphery m byte] at hstep
  exact hstep

theorem load_withEdge (m : Machine) (edge : SpriteEdge) (program : List UInt8) :
    (m.withEdge edge).load program =
      { m.load program with machine := (m.load program).machine.withEdge edge } := by
  unfold load
  split <;> rfl

theorem restore_withEdge (m : Machine) (edge : SpriteEdge) (s : SaveState) :
    (m.withEdge edge).restore s =
      { m.restore s with machine := (m.restore s).machine.withEdge edge } := by
  unfold restore
  split <;> rfl

theorem serve_withEdge {r : Request} (h : r = .step → m.DrawsWithin) (edge : SpriteEdge)
    (dice : Dice) :
    (m.withEdge edge).serve dice r = (m.serve dice r).withEdge edge := by
  cases r with
  | load program =>
    simp only [serve, load_withEdge]
    rfl
  | restore state =>
    simp only [serve, restore_withEdge]
    rfl
  | step =>
    have hrolls : (m.withEdge edge).rolls = m.rolls := rfl
    simp only [serve, step_withEdge (h rfl), hrolls]
    rfl
  | reset | tickTimers | press | release | setKey => rfl

end Machine

theorem Turn.andThen_withEdge {t : Turn} {rs : List Request}
    (h : t.AtSteps Machine.DrawsWithin rs) (edge : SpriteEdge) :
    (t.withEdge edge).andThen rs = (t.andThen rs).withEdge edge := by
  induction rs generalizing t with
  | nil => rfl
  | cons r rs ih =>
    obtain ⟨hfirst, hrest⟩ := atSteps_cons_iff.1 h
    rw [andThen_cons, andThen_cons, ← ih hrest]
    exact congrArg (fun t => t.andThen rs) (Machine.serve_withEdge hfirst edge t.dice)

namespace Machine

variable {m : Machine} {p : Fin displaySize} {x y : Register} {n : Nibble}

/-! ## One sprite -/

/-- The pixels that are covered only where the edge does not clip lie under the bits
    beyond it. -/
theorem mem_spritePixels_spill_iff (h : m.index.toNat + n ≤ memorySize) :
    p ∈ (m.withEdge .spill).spritePixels x y n ∧ p ∉ (m.withEdge .clip).spritePixels x y n ↔
      ∃ row column, row < n.val ∧ column < 8 ∧ m.SpriteBit row column ∧
        displayWidth ≤ (m.register x).toNat + column ∧
        p.val = pixelIndex ((m.register x).toNat + column) ((m.register y).toNat + row) := by
  rw [mem_spritePixels_iff (m := m.withEdge .spill) h,
    mem_spritePixels_iff (m := m.withEdge .clip) h]
  constructor
  · rintro ⟨⟨row, column, hrow, hcolumn, hset, -, hp⟩, hnot⟩
    refine ⟨row, column, hrow, hcolumn, hset, ?_, hp⟩
    refine Nat.le_of_not_lt fun hwithin => hnot ?_
    exact ⟨row, column, hrow, hcolumn, hset, fun _ => hwithin, hp⟩
  · rintro ⟨row, column, hrow, hcolumn, hset, hbeyond, hp⟩
    refine ⟨⟨row, column, hrow, hcolumn, hset, nofun, hp⟩, ?_⟩
    rintro ⟨row', column', -, hcolumn', -, hwithin, hp'⟩
    -- a pixel is under one bit only, and this one is beyond the edge
    obtain ⟨-, rfl⟩ := pixelIndex_inj hcolumn hcolumn' (hp.symm.trans hp')
    exact absurd (hwithin rfl) (Nat.not_lt.2 hbeyond)

theorem spritePixels_clip_subset (h : m.index.toNat + n ≤ memorySize)
    (hp : p ∈ (m.withEdge .clip).spritePixels x y n) :
    p ∈ (m.withEdge .spill).spritePixels x y n := by
  obtain ⟨row, column, hrow, hcolumn, hset, -, hindex⟩ :=
    (mem_spritePixels_iff (m := m.withEdge .clip) h).1 hp
  refine (mem_spritePixels_iff (m := m.withEdge .spill) h).2 ?_
  exact ⟨row, column, hrow, hcolumn, hset, nofun, hindex⟩

/-- Where a clipped sprite hits a lit pixel, a whole one does. -/
theorem anyLit_clip_le_spill (h : m.index.toNat + n ≤ memorySize) :
    (m.display.anyLit ((m.withEdge .clip).spritePixels x y n)).toUInt8 ≤
      (m.display.anyLit ((m.withEdge .spill).spritePixels x y n)).toUInt8 := by
  cases hclip : m.display.anyLit ((m.withEdge .clip).spritePixels x y n) with
  | false => exact UInt8.zero_le
  | true =>
    obtain ⟨p, hp, hlit⟩ := Display.anyLit_iff.1 hclip
    have hspill : m.display.anyLit ((m.withEdge .spill).spritePixels x y n) = true :=
      Display.anyLit_iff.2 ⟨p, spritePixels_clip_subset h hp, hlit⟩
    rw [hspill]
    exact UInt8.le_refl _

/-- Displays on which the same pixels but some are inverted differ at these. -/
theorem get_toggleAll_ne_iff (d : Display) {pixels more : List (Fin displaySize)}
    (hpixels : pixels.Nodup) (hmore : more.Nodup) (hsubset : p ∈ pixels → p ∈ more) :
    (d.toggleAll pixels).pixels.get p ≠ (d.toggleAll more).pixels.get p ↔
      p ∈ more ∧ p ∉ pixels := by
  by_cases hp : p ∈ pixels
  · rw [Display.get_toggleAll_of_mem hpixels hp, Display.get_toggleAll_of_mem hmore (hsubset hp)]
    exact iff_of_false (fun hne => hne rfl) fun hout => hout.2 hp
  · rw [Display.get_toggleAll_of_not_mem hp]
    by_cases hin : p ∈ more
    · rw [Display.get_toggleAll_of_mem hmore hin]
      exact iff_of_true (Display.xor_lit_ne _).symm ⟨hin, hp⟩
    · rw [Display.get_toggleAll_of_not_mem hin]
      exact iff_of_false (fun hne => hne rfl) fun hout => hin hout.1

/-- How the right edge is treated does not show in any row of requests that draws no
    set bit beyond it: the answers are the same, and the machines after each request
    differ in that treatment alone. Of any one sprite, whole or clipped, either both
    are drawn or both fail with the same fault; the displays then differ in exactly
    the pixels under its set bits beyond the edge, and VF is not higher for the
    clipped one. -/
theorem edge_shows_beyond (m : Machine) :
    let spilling := m.withEdge .spill
    let clipping := m.withEdge .clip
    (∀ (dice : Dice) (rs : List Request), (spilling.turn dice).AtSteps DrawsWithin rs →
      ∀ front, front <+: rs →
        ((clipping.turn dice).andThen front).result =
            ((spilling.turn dice).andThen front).result ∧
          ((clipping.turn dice).andThen front).machine =
            ((spilling.turn dice).andThen front).machine.withEdge .clip) ∧
      ∀ (byte : UInt8) (x y : Register) (n : Nibble),
        let whole := spilling.execute byte (.draw x y n)
        let clipped := clipping.execute byte (.draw x y n)
        clipped.result = whole.result ∧
          (∀ p : Fin displaySize,
            clipped.machine.display.pixels.get p ≠ whole.machine.display.pixels.get p ↔
              m.index.toNat + n ≤ memorySize ∧
                ∃ row column, row < n.val ∧ column < 8 ∧ m.SpriteBit row column ∧
                  displayWidth ≤ (m.register x).toNat + column ∧
                  p.val = ((m.register y).toNat + row) * 64 + ((m.register x).toNat + column)) ∧
          clipped.machine.register 0xF ≤ whole.machine.register 0xF := by
  intro spilling clipping
  refine ⟨?_, ?_⟩
  · intro dice rs hwithin front hfront
    have hsame : (clipping.turn dice).andThen front =
        ((spilling.turn dice).andThen front).withEdge .clip :=
      Turn.andThen_withEdge (hwithin.front hfront) .clip
    rw [hsame]
    exact ⟨rfl, rfl⟩
  · intro byte x y n whole clipped
    rcases Nat.lt_or_ge memorySize (m.index.toNat + n) with houtside | hinside
    · have hwhole : whole = ⟨.error (Memory.outsideFault m.index.toNat), spilling, []⟩ :=
        execute_draw_of_outside (m := spilling) houtside byte
      have hclipped : clipped = ⟨.error (Memory.outsideFault m.index.toNat), clipping, []⟩ :=
        execute_draw_of_outside (m := clipping) houtside byte
      rw [hwhole, hclipped]
      refine ⟨rfl, fun p => ?_, UInt8.le_refl _⟩
      exact iff_of_false (fun hne => hne rfl) fun hin => Nat.not_lt.2 hin.1 houtside
    · have hwhole := execute_draw_of_inside (m := spilling) (x := x) (y := y) hinside byte
      have hclipped := execute_draw_of_inside (m := clipping) (x := x) (y := y) hinside byte
      simp only [whole, clipped, hwhole, hclipped]
      refine ⟨trivial, fun p => ?_, ?_⟩
      · have hpixels := get_toggleAll_ne_iff (p := p) m.display
          (nodup_spritePixels clipping x y n) (nodup_spritePixels spilling x y n)
          (spritePixels_clip_subset hinside)
        refine (hpixels.trans (mem_spritePixels_spill_iff hinside)).trans ?_
        exact (and_iff_right hinside).symm
      · rw [setFlag_register, setFlag_register]
        exact anyLit_clip_le_spill hinside

/-- A machine in front of a sprite of two pixels at column 62, which is V0. V1 is one
    column further. -/
def brink : Machine :=
  { start .spill with
    memory := ⟨Vector.ofFn fun a =>
      if a = 0 then 0xC0 else if a = 0x200 then 0xD0 else if a = 0x201 then 0x21 else 0⟩
    registers := ((Vector.replicate 16 0).set 0 62).set 1 63 }

theorem brink_fetches : (brink.withEdge .spill).Fetches (.draw 0 2 1) where
  running := rfl
  inside := by decide
  decoded := by
    simp only [wordAt, withEdge, brink, Vector.getElem_ofFn]
    decide

theorem brink_read : brink.memory.read 0 = .ok 0xC0 := by
  simp [brink, Memory.read, Vector.getElem_ofFn]

/-- The two pixels at column 62 are the last ones of their row. -/
theorem brink_drawsWithin : (brink.withEdge .spill).DrawsWithin := by
  intro x y n hdraw
  obtain ⟨rfl, rfl, rfl⟩ : x = 0 ∧ y = 2 ∧ n = 1 := by
    have hsame := hdraw.unique brink_fetches
    simpa using hsame
  rintro ⟨-, row, column, hrow, hcolumn, ⟨bits, hread, hset⟩, hbeyond⟩
  obtain rfl : row = 0 := Nat.lt_one_iff.1 hrow
  obtain rfl : 0xC0 = bits := Except.ok.inj (brink_read.symm.trans hread)
  have hdark : ∀ k : Fin 8, 2 ≤ k.val → spriteBit 0xC0 k = false := by decide
  have hcorner : (brink.register 0).toNat = 62 := by decide
  have hlast : 64 ≤ (brink.register 0).toNat + column := hbeyond
  have hfrom : 2 ≤ column := by omega
  rw [hdark ⟨column, hcolumn⟩ hfrom] at hset
  cases hset

/-- A sprite that ends at the edge is drawn alike, and one that is one column further
    lights the first pixel of the next row unless it is clipped. -/
theorem edge_shows_at_brink :
    ((brink.withEdge .spill).turn (.ofSeed 0)).AtSteps DrawsWithin [.step] ∧
      (((brink.withEdge .clip).turn (.ofSeed 0)).andThen [.step]).machine =
        (((brink.withEdge .spill).turn (.ofSeed 0)).andThen [.step]).machine.withEdge .clip ∧
      ((brink.withEdge .clip).execute 0 (.draw 1 2 1)).machine.display.pixels.get ⟨64, by decide⟩ ≠
        ((brink.withEdge .spill).execute 0 (.draw 1 2 1)).machine.display.pixels.get
          ⟨64, by decide⟩ := by
  obtain ⟨hruns, hdraws⟩ := edge_shows_beyond brink
  have hwithin : ((brink.withEdge .spill).turn (.ofSeed 0)).AtSteps DrawsWithin [.step] :=
    Turn.atSteps_cons_iff.2 ⟨fun _ => brink_drawsWithin, Turn.atSteps_nil _ _⟩
  obtain ⟨-, hmachine⟩ := hruns (.ofSeed 0) [.step] hwithin [.step] (List.prefix_refl _)
  obtain ⟨-, hpixels, -⟩ := hdraws 0 1 2 1
  refine ⟨hwithin, hmachine, (hpixels _).2 ⟨by decide, 0, 1, by decide, by decide, ?_, ?_, ?_⟩⟩
  · exact ⟨0xC0, brink_read, by decide⟩
  · decide
  · decide

end Machine

end Chip8

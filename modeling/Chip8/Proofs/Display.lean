-- SUMMARY: The pixels of a display, the lines of its text and its bytes tell the same, and the text tells the display.
import Chip8.Proofs.SaveState

/-! # Views of a display

A display is looked at in three ways: byte by byte, pixel by pixel at a column and a row,
and as a text with a line for each row. All three agree, and when every byte is that of a
lit or a dark pixel, the text leaves nothing of the display open. -/

namespace Chip8.Display

variable {d e : Display} {x y : Nat}

/-! ## Pixels -/

theorem isLit_of_inside (hx : x < displayWidth) (hy : y < displayHeight) :
    d.isLit x y = (d.pixels.get ⟨pixelIndex x y, pixelIndex_lt ⟨hx, hy⟩⟩ == lit) :=
  dif_pos ⟨hx, hy⟩

theorem isLit_of_outside (h : ¬(x < displayWidth ∧ y < displayHeight)) : d.isLit x y = false :=
  dif_neg h

/-- Every place is that of a pixel. -/
theorem exists_pixelIndex_eq (p : Fin displaySize) :
    ∃ x y, x < displayWidth ∧ y < displayHeight ∧ pixelIndex x y = p.val := by
  have hp : p.val < 64 * 32 := p.isLt
  refine ⟨p.val % 64, p.val / 64, Nat.mod_lt _ (by decide), Nat.div_lt_of_lt_mul hp, ?_⟩
  rw [pixelIndex, displayWidth]
  omega

/-- Looks up a pixel at the place that `place` finds for it. Places are asked for on the
    display only, and `none` is a place that cannot be worked out or has no byte. -/
def isLitBy (place : Nat → Nat → Option Nat) (d : Display) (x y : Nat) : Option Bool :=
  if x < displayWidth ∧ y < displayHeight then do
    let p ← place x y
    let byte ← d.pixels[p]?
    return byte == lit
  else some false

/-- Whatever becomes of places outside of the display, no pixel depends on it. -/
theorem isLitBy_eq {place : Nat → Nat → Option Nat}
    (hplace : ∀ x y, x < displayWidth → y < displayHeight → place x y = some (pixelIndex x y))
    (d : Display) (x y : Nat) : d.isLitBy place x y = some (d.isLit x y) := by
  unfold isLitBy
  split
  · next h =>
    have hbyte : d.pixels[pixelIndex x y]? = some (d.pixels.get ⟨_, pixelIndex_lt h⟩) :=
      Vector.getElem?_eq_getElem (pixelIndex_lt h)
    rw [hplace x y h.1 h.2, Option.bind_eq_bind, Option.bind_some, hbyte, isLit, dif_pos h]
    rfl
  · next h => rw [isLit_of_outside h]

/-! ## Lines -/

theorem length_row (d : Display) (hy : y < displayHeight) : (d.row y).length = displayWidth := by
  rw [row, Vector.length_toList]
  simp only [displayWidth, displayHeight, displaySize] at *
  omega

theorem getElem?_row (d : Display) (hx : x < displayWidth) (hy : y < displayHeight) :
    (d.row y)[x]? = some (d.pixels.get ⟨pixelIndex x y, pixelIndex_lt ⟨hx, hy⟩⟩) := by
  have hwithin : x < min ((y + 1) * displayWidth) displaySize - y * displayWidth := by
    simp only [displayWidth, displayHeight, displaySize] at *
    omega
  rw [row, Vector.getElem?_toList, Vector.getElem?_extract, if_pos hwithin]
  exact Vector.getElem?_eq_getElem (pixelIndex_lt ⟨hx, hy⟩)

/-- The line of a row. -/
def line (d : Display) (y : Nat) : String := String.ofList (rowText (d.row y))

theorem toList_line (d : Display) (y : Nat) : (d.line y).toList = rowText (d.row y) :=
  String.toList_ofList

theorem length_line (d : Display) (hy : y < displayHeight) : (d.line y).length = displayWidth := by
  rw [← String.length_toList, toList_line, rowText, List.length_map, d.length_row hy]

theorem getElem?_line (d : Display) (hx : x < displayWidth) (hy : y < displayHeight) :
    (d.line y).toList[x]? = some (if d.isLit x y then '#' else '.') := by
  rw [toList_line, rowText, List.getElem?_map, d.getElem?_row hx hy, isLit_of_inside hx hy]
  rfl

theorem newline_not_mem_line (d : Display) (y : Nat) : '\n' ∉ (d.line y).toList := by
  rw [toList_line, rowText, List.mem_map]
  rintro ⟨byte, -, hchar⟩
  split at hchar <;> cases hchar

/-! ## Text -/

/-- The lines of a display from top to bottom. -/
def lines (d : Display) : List String := (List.range displayHeight).map d.line

theorem text_eq_intercalate (d : Display) : d.text = String.intercalate "\n" d.lines := by
  rw [text, rows, List.map_map]
  rfl

theorem newline_not_mem_lines (d : Display) : ∀ line ∈ d.lines, '\n' ∉ line.toList := by
  intro line hline
  obtain ⟨y, -, rfl⟩ := List.mem_map.1 hline
  exact d.newline_not_mem_line y

/-- The text is split into the lines of the display. -/
theorem split_text (d : Display) : (d.text.split '\n').toList.map (·.copy) = d.lines := by
  have hsplit := String.toList_split_intercalate d.newline_not_mem_lines
  have hlines : d.lines ≠ [] := mt List.map_eq_nil_iff.1 (by decide)
  rw [if_neg hlines] at hsplit
  rw [text_eq_intercalate]
  exact hsplit

theorem getElem?_lines (d : Display) (hy : y < displayHeight) : d.lines[y]? = some (d.line y) := by
  rw [lines, List.getElem?_map, List.getElem?_range hy]
  rfl

theorem length_of_mem_lines : ∀ line ∈ d.lines, line.length = displayWidth := by
  intro line hline
  obtain ⟨y, hy, rfl⟩ := List.mem_map.1 hline
  exact d.length_line (List.mem_range.1 hy)

/-- A line end at the end of the text would leave an empty line behind it. -/
theorem getLast?_text_ne (d : Display) : d.text.toList.getLast? ≠ some '\n' := by
  intro hlast
  obtain ⟨front, hfront⟩ := List.getLast?_eq_some_iff.1 hlast
  have hsplit := String.toList_split_char (s := d.text) (c := '\n')
  rw [hfront, List.splitOn_append_cons_self, List.splitOn_nil, List.map_append, split_text]
    at hsplit
  have hempty : "" ∈ d.lines := hsplit ▸ List.mem_append_right _ (List.mem_singleton_self _)
  exact absurd (length_of_mem_lines _ hempty) (by decide)

theorem eq_of_isLit_eq (hd : d.Crisp) (he : e.Crisp) (h : ∀ x y, d.isLit x y = e.isLit x y) :
    d = e := by
  obtain ⟨pixels⟩ := d
  obtain ⟨pixels'⟩ := e
  refine congrArg mk (Vector.ext fun k hk => ?_)
  obtain ⟨x, y, hx, hy, hplace⟩ := exists_pixelIndex_eq ⟨k, hk⟩
  obtain rfl : pixelIndex x y = k := hplace
  have hlit := h x y
  rw [isLit_of_inside hx hy, isLit_of_inside hx hy, Bool.eq_iff_iff, beq_iff_eq, beq_iff_eq] at hlit
  -- a byte is 255 on both displays or 0 on both
  rcases hd ⟨_, hk⟩ with hdark | hbright
  · rcases he ⟨_, hk⟩ with hdark' | hbright'
    · exact hdark.trans hdark'.symm
    · exact (hlit.2 hbright').trans hbright'.symm
  · exact hbright.trans (hlit.1 hbright).symm

theorem isLit_congr (h : d.text = e.text) (x y : Nat) : d.isLit x y = e.isLit x y := by
  by_cases hinside : x < displayWidth ∧ y < displayHeight
  · obtain ⟨hx, hy⟩ := hinside
    have hlines : d.lines = e.lines := by rw [← split_text, ← split_text, h]
    have hline : some (d.line y) = some (e.line y) := by
      rw [← d.getElem?_lines hy, ← e.getElem?_lines hy, hlines]
    have hchar := d.getElem?_line hx hy
    rw [Option.some.inj hline, e.getElem?_line hx hy] at hchar
    cases hd : d.isLit x y <;> cases he : e.isLit x y <;> simp_all
  · rw [isLit_of_outside hinside, isLit_of_outside hinside]

/-- Split at its line ends, the text of a display is 32 lines of 64 characters, with none
    behind the last one. In the line of a row the character of a column is a hash if the
    pixel is lit, which is so if its byte is 255, and a full stop otherwise. There is no lit
    pixel outside, and no place of one is asked for. Displays with the same text are the
    same, as long as all of their pixels are lit or dark. -/
theorem views_agree (d : Display) :
    let split := (d.text.split '\n').toList.map (·.copy)
    split.length = 32 ∧ (∀ line ∈ split, line.length = 64) ∧
      d.text.toList.getLast? ≠ some '\n' ∧
      (∀ x y, x < 64 → y < 32 → ∃ line char,
        split[y]? = some line ∧ line.toList[x]? = some char ∧
          (char = '#' ∧ d.isLit x y = true ∧ d.pixels[y * 64 + x]? = some 255 ∨
            char = '.' ∧ d.isLit x y = false ∧ d.pixels[y * 64 + x]? ≠ some 255)) ∧
      (∀ x y, ¬(x < 64 ∧ y < 32) → d.isLit x y = false) ∧
      (∀ place, (∀ x y, x < 64 → y < 32 → place x y = some (y * 64 + x)) →
        ∀ x y, d.isLitBy place x y = some (d.isLit x y)) ∧
      ∀ e : Display, d.Crisp → e.Crisp → d.text = e.text → d = e := by
  intro split
  have hsplit : split = d.lines := d.split_text
  rw [hsplit]
  refine ⟨?_, length_of_mem_lines, d.getLast?_text_ne, fun x y hx hy => ?_,
    fun x y h => isLit_of_outside h, fun place hplace => isLitBy_eq hplace d,
    fun e hd he h => eq_of_isLit_eq hd he (isLit_congr h)⟩
  · rw [lines, List.length_map, List.length_range]
  · have hbyte : d.pixels[y * 64 + x]? = some (d.pixels.get ⟨pixelIndex x y, _⟩) :=
      Vector.getElem?_eq_getElem (pixelIndex_lt ⟨hx, hy⟩)
    refine ⟨_, _, d.getElem?_lines hy, d.getElem?_line hx hy, ?_⟩
    rw [hbyte, isLit_of_inside hx hy, Ne, Option.some.injEq]
    by_cases hlit : d.pixels.get ⟨pixelIndex x y, pixelIndex_lt ⟨hx, hy⟩⟩ = lit
    · rw [beq_iff_eq.2 hlit]
      exact .inl ⟨rfl, rfl, hlit⟩
    · rw [beq_eq_false_iff_ne.2 hlit]
      exact .inr ⟨rfl, rfl, hlit⟩

/-- The third pixel of the second row is lit. -/
def speck : Display := ⟨Vector.ofFn fun p => if p.val = 66 then lit else 0⟩

/-- The place of a pixel in numbers of 64 bits, if it fits. -/
def place64? (x y : Nat) : Option Nat :=
  if y * 64 + x < UInt64.size then some (y * 64 + x) else none

/-- The pixel is found in the second line, its mirror image is dark, and far below the
    display nothing is looked up. A display without it has another text. -/
theorem views_of_speck :
    let split := (speck.text.split '\n').toList.map (·.copy)
    (∃ line, split[1]? = some line ∧ line.toList[2]? = some '#') ∧
      (∃ line, split[2]? = some line ∧ line.toList[1]? = some '.') ∧
      ¬(0 < 64 ∧ UInt64.size - 1 < 32) ∧ place64? 0 (UInt64.size - 1) = none ∧
      speck.isLit 0 (UInt64.size - 1) = false ∧
      speck.isLitBy place64? 0 (UInt64.size - 1) = some false ∧
      speck.Crisp ∧ blank.Crisp ∧ speck.text ≠ blank.text := by
  intro split
  have hget (p : Fin displaySize) : speck.pixels.get p = if p.val = 66 then lit else 0 :=
    Vector.getElem_ofFn p.isLt
  have hbyte (k : Nat) (hk : k < displaySize) :
      speck.pixels[k]? = some (if k = 66 then lit else 0) := by
    rw [Vector.getElem?_eq_getElem hk]
    exact congrArg some (hget ⟨k, hk⟩)
  have hcrisp : speck.Crisp := by
    intro p
    rw [hget]
    split
    · exact .inr rfl
    · exact .inl rfl
  have hblank (p : Fin displaySize) : blank.pixels.get p = 0 := Vector.getElem_replicate p.isLt
  have hdark : blank.Crisp := fun p => .inl (hblank p)
  have hplace : ∀ x y, x < 64 → y < 32 → place64? x y = some (y * 64 + x) := by
    intro x y hx hy
    have hsize : 32 * 64 ≤ UInt64.size := by decide
    exact if_pos (by omega)
  obtain ⟨-, -, -, hchars, houtside, hlookup, htext⟩ := views_agree speck
  have hfar : ¬(0 < 64 ∧ UInt64.size - 1 < 32) := by decide
  refine ⟨?_, ?_, hfar, rfl, houtside _ _ hfar, ?_, hcrisp, hdark, fun h => ?_⟩
  · obtain ⟨line, char, hline, hchar, ⟨rfl, -, -⟩ | ⟨-, -, hother⟩⟩ :=
      hchars 2 1 (by decide) (by decide)
    · exact ⟨line, hline, hchar⟩
    · exact absurd (hbyte 66 (by decide)) hother
  · obtain ⟨line, char, hline, hchar, ⟨-, -, hlit⟩ | ⟨rfl, -, -⟩⟩ :=
      hchars 1 2 (by decide) (by decide)
    · rw [hbyte _ (by decide)] at hlit
      cases hlit
    · exact ⟨line, hline, hchar⟩
  · rw [hlookup place64? hplace, houtside _ _ hfar]
  · have heq := htext blank hcrisp hdark h
    have hlit := hget ⟨66, by decide⟩
    rw [heq, hblank] at hlit
    cases hlit

end Chip8.Display

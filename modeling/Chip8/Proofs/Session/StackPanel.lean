-- SUMMARY: The stack panel shows the innermost calls with their depths, in no more lines than it has.
import Chip8.Proofs.Text.Hex
import Chip8.Session.View

/-! # The stack panel

The panel has a line for each call, innermost first, with the depth of the call and the
address that it returns to. Both can be read off the line. When there are more calls than
lines, the last line stands for the rest of them. -/

namespace Chip8.Session

open Text

variable {stack : List UInt16} {rows : Nat}

/-! ## Lines of calls -/

/-- The depth and the return address that the line of a call tells. -/
def readEntry (line : List Char) : Nat × Nat :=
  let (depth, rest) := readAligned line
  (depth, ofHex (rest.drop 3))

/-- The line of a call is read back. -/
theorem readEntry_stackEntry (address : UInt16) (depth : Nat) :
    readEntry (stackEntry address depth).toList = (depth, address.toNat) := by
  have hline : (stackEntry address depth).toList =
      (rightAligned 2 depth).toList ++ ' ' :: '0' :: 'x' :: (hex 3 address.toNat).toList := by
    rw [stackEntry, Text.address, String.toList_append, String.toList_append,
      String.toList_append, List.append_assoc]
    rfl
  rw [hline, readEntry, readAligned_append 2 depth rfl]
  exact congrArg (Prod.mk depth) (ofHex_hex 3 address.toNat)

/-- The calls of a stack by their depths, innermost first. -/
def calls (stack : List UInt16) : List (Fin stack.length) :=
  (List.finRange stack.length).reverse

/-- The line of a call of a stack. -/
def callLine (stack : List UInt16) (call : Fin stack.length) : String :=
  stackEntry stack[call] call

theorem length_calls (stack : List UInt16) : (calls stack).length = stack.length := by
  rw [calls, List.length_reverse, List.length_finRange]

theorem zipIdx_eq_finRange (stack : List UInt16) :
    stack.zipIdx = (List.finRange stack.length).map fun call => (stack[call], call.val) := by
  refine List.ext_getElem ?_ fun k _ _ => ?_
  · rw [List.length_zipIdx, List.length_map, List.length_finRange]
  · simp

theorem innermostEntries_eq (stack : List UInt16) (rows : Nat) :
    innermostEntries stack rows = ((calls stack).take rows).map (callLine stack) := by
  rw [innermostEntries, zipIdx_eq_finRange, ← List.map_reverse, ← List.map_take, List.map_map]
  rfl

theorem length_innermostEntries (stack : List UInt16) (rows : Nat) :
    (innermostEntries stack rows).length = min rows stack.length := by
  rw [innermostEntries_eq, List.length_map, List.length_take, length_calls]

/-- There are entries as soon as there are a row and a call. -/
theorem innermostEntries_ne_nil_iff :
    innermostEntries stack rows ≠ [] ↔ 0 < rows ∧ 0 < stack.length := by
  rw [← List.length_pos_iff, length_innermostEntries, Nat.lt_min]

/-- When there are more calls than lines, the last line is there to be replaced. -/
theorem last_lt_length (h : 0 < rows) (hmore : rows < stack.length) :
    rows - 1 < (innermostEntries stack rows).length := by
  rw [length_innermostEntries, Nat.min_eq_left (Nat.le_of_lt hmore)]
  exact Nat.sub_one_lt_of_lt h

/-! ## Lines of the panel -/

theorem stackLines_of_no_calls (h : stack.length = 0) : stackLines stack rows = ["Empty"] := by
  have hnone : innermostEntries stack rows = [] := by
    rw [← List.length_eq_zero_iff, length_innermostEntries, h, Nat.min_zero]
  rw [stackLines, if_pos hnone]

/-- Calls that all have a line are all shown. -/
theorem stackLines_of_le (h : 0 < stack.length) (hfits : stack.length ≤ rows) :
    stackLines stack rows = (calls stack).map (callLine stack) := by
  have hcalls : innermostEntries stack rows ≠ [] :=
    innermostEntries_ne_nil_iff.2 ⟨Nat.lt_of_lt_of_le h hfits, h⟩
  have hall : (calls stack).length ≤ rows := by rwa [length_calls]
  rw [stackLines, if_neg hcalls, if_neg (Nat.not_lt.2 hfits), innermostEntries_eq,
    List.take_of_length_le hall]

/-- Of more calls than lines the outermost share the last line. -/
theorem stackLines_of_lt (h : 0 < rows) (hmore : rows < stack.length) :
    stackLines stack rows = ((calls stack).take (rows - 1)).map (callLine stack) ++ ["..."] := by
  have hcalls : innermostEntries stack rows ≠ [] :=
    innermostEntries_ne_nil_iff.2 ⟨h, Nat.lt_trans h hmore⟩
  have hbehind : (innermostEntries stack rows).drop (rows - 1 + 1) = [] := by
    rw [Nat.sub_add_cancel h]
    refine List.drop_eq_nil_of_le ?_
    rw [length_innermostEntries]
    exact Nat.min_le_left rows stack.length
  rw [stackLines, if_neg hcalls, if_pos hmore, List.set_eq_take_append_cons_drop,
    if_pos (last_lt_length h hmore), hbehind, innermostEntries_eq, ← List.map_take, List.take_take,
    Nat.min_eq_left (Nat.sub_le rows 1)]

theorem length_stackLines_le (h : 0 < rows) : (stackLines stack rows).length ≤ rows := by
  rcases Nat.lt_or_ge rows stack.length with hmore | hfits
  · rw [stackLines_of_lt h hmore, List.length_append, List.length_map, List.length_singleton]
    exact Nat.add_le_of_le_sub h (List.length_take_le _ _)
  rcases Nat.eq_zero_or_pos stack.length with hnone | hcalls
  · rw [stackLines_of_no_calls hnone]
    exact h
  · rw [stackLines_of_le hcalls hfits, List.length_map, length_calls]
    exact hfits

/-! ## Careful panels -/

/-- The place of the last one of some rows, if there are any. -/
def lastRow? (rows : Nat) : Option Nat := if 0 < rows then some (rows - 1) else none

/-- Puts a line in place of the one at `row`, if there is one. -/
def replace? (lines : List String) (row : Nat) (line : String) : Option (List String) :=
  if row < lines.length then some (lines.set row line) else none

/-- The lines of the panel, unless the last of them is put where no line is. -/
def carefulStackLines (stack : List UInt16) (rows : Nat) : Option (List String) :=
  let lines := innermostEntries stack rows
  if lines = [] then some ["Empty"]
  else if rows < stack.length then do replace? lines (← lastRow? rows) "..."
  else some lines

/-- There is always a line to be replaced. -/
theorem carefulStackLines_eq (stack : List UInt16) (rows : Nat) :
    carefulStackLines stack rows = some (stackLines stack rows) := by
  simp only [carefulStackLines, stackLines]
  split
  · rfl
  · next hcalls =>
    split
    · next hmore =>
      have hrows : 0 < rows := (innermostEntries_ne_nil_iff.1 hcalls).1
      rw [lastRow?, if_pos hrows, Option.bind_eq_bind, Option.bind_some, replace?,
        if_pos (last_lt_length hrows hmore)]
    · rfl

/-- The panel of a stack says that there are no calls, or shows all of them, innermost first,
    or as many of them as leave the last line for the rest. It never has more lines than there
    is room for, and never puts one where none is. A line tells the depth of its call and the
    address that it returns to. -/
theorem stackPanel_shows (stack : List UInt16) (height : Nat) :
    let rows := max (height - 2) 1
    let lines := stackPanel stack height
    (stack.length = 0 → lines = ["Empty"]) ∧
      (1 ≤ stack.length → stack.length ≤ rows → lines = (calls stack).map (callLine stack)) ∧
      (rows < stack.length →
        lines = ((calls stack).take (rows - 1)).map (callLine stack) ++ ["..."]) ∧
      lines.length ≤ rows ∧
      carefulStackLines stack rows = some lines ∧
      ∀ call : Fin stack.length,
        readEntry (callLine stack call).toList = (call.val, stack[call].toNat) := by
  intro rows lines
  have hrows : 0 < rows := Nat.le_max_right (height - 2) 1
  exact ⟨stackLines_of_no_calls, stackLines_of_le, stackLines_of_lt hrows,
    length_stackLines_le hrows, carefulStackLines_eq stack rows,
    fun call => readEntry_stackEntry stack[call] call⟩

/-- Three calls fill a panel of five rows with its borders. In one of four the two outer calls
    share a line, and without any room all three do. -/
theorem stackPanel_of_three :
    let stack : List UInt16 := [0x200, 0x30A, 0xFFF]
    stackPanel [] 0 = ["Empty"] ∧
      (1 ≤ stack.length ∧ stack.length ≤ max (5 - 2) 1 ∧
        stackPanel stack 5 = [" 2 0xFFF", " 1 0x30A", " 0 0x200"]) ∧
      (max (4 - 2) 1 < stack.length ∧ stackPanel stack 4 = [" 2 0xFFF", "..."]) ∧
      max (0 - 2) 1 < stack.length ∧ stackPanel stack 0 = ["..."] := by
  intro stack
  obtain ⟨hempty, -⟩ := stackPanel_shows [] 0
  obtain ⟨-, hall, -⟩ := stackPanel_shows stack 5
  obtain ⟨-, -, hsome, -⟩ := stackPanel_shows stack 4
  obtain ⟨-, -, hnone, -⟩ := stackPanel_shows stack 0
  refine ⟨hempty rfl, ⟨by decide, by decide, (hall (by decide) (by decide)).trans ?_⟩,
    ⟨by decide, (hsome (by decide)).trans ?_⟩, by decide, (hnone (by decide)).trans ?_⟩
  all_goals decide

end Chip8.Session

-- SUMMARY: A value is read from its written form with any blanks between its tokens.
import Chip8.Proofs.Json.Position

/-! # Layouts

A layout of a value is its written form with blanks put between its tokens. Every
layout is a value, whose extent is known whatever stands behind it, and is read
as the value that it was made for. -/

namespace Chip8.Json

variable {s t rest : List Char} {items : List Item}

/-! ## Written scalars -/

theorem isUnsigned_toDigits (n : Nat) : IsUnsigned (Nat.toDigits 10 n) := by
  have hwhole : IsInteger (Nat.toDigits 10 n) := by
    rcases Nat.eq_zero_or_pos n with rfl | hn
    · exact .zero
    · obtain ⟨c, digits, heq, -, hzero⟩ := head_toDigits hn
      rw [heq]
      refine .digits hzero ?_
      rw [← heq]
      exact isDigit_toDigits n
  have hunsigned := IsUnsigned.mk hwhole .none .none
  rwa [List.append_nil, List.append_nil] at hunsigned

theorem Scalar.isValue_write (k : Scalar) (x : k.Value) : IsValue (k.write x).toList := by
  have hnumber : ∀ n : Nat, IsValue (toString n).toList := by
    intro n
    rw [Nat.toString_eq_repr, Nat.toList_repr]
    exact .number (.positive (isUnsigned_toDigits n))
  cases k with
  | byte => exact hnumber x.toNat
  | word => exact hnumber x.toNat
  | flag =>
    cases x with
    | false => exact .no
    | true => exact .yes

/-- Blanks in front of a scalar make no difference. -/
theorem Scalar.read_append (k : Scalar) (a : Blanks) (s : List Char) :
    k.read (a.text ++ s) = k.read s := by
  cases k <;> simp [read, readNatural, readFlag, skipBlanks_append]

/-- Blanks in front of a value of any shape make no difference. -/
theorem Shape.read_append (k : Shape) (a : Blanks) (s : List Char) :
    k.read (a.text ++ s) = k.read s := by
  cases k with
  | one k => exact k.read_append a s
  | exactly size k => simp [read, openList, skipBlanks_append]
  | many k => simp [read, openList, skipBlanks_append]

/-! ## Layouts of values -/

/-- Items that hold the written forms of scalars. -/
def Scalar.Holds (k : Scalar) (items : List Item) (xs : List k.Value) : Prop :=
  items.map Item.core = xs.map fun x => (k.write x).toList

/-- A text that holds a value, with blanks between its tokens. -/
def Shape.Layout : (k : Shape) → k.Value → List Char → Prop
  | .one k, x, t => t = (k.write x).toList
  | .exactly _ k, xs, t => ∃ pad items, k.Holds items xs.toList ∧ t = listText pad items
  | .many k, xs, t => ∃ pad items, k.Holds items xs ∧ t = listText pad items

theorem Scalar.Holds.isValue {k : Scalar} {xs : List k.Value} (h : k.Holds items xs) :
    ∀ i ∈ items, IsValue i.core := by
  intro i hi
  have hcore : i.core ∈ items.map Item.core := List.mem_map_of_mem hi
  rw [h] at hcore
  obtain ⟨x, -, hx⟩ := List.mem_map.1 hcore
  rw [← hx]
  exact k.isValue_write x

theorem Shape.Layout.isValue {k : Shape} {x : k.Value} (h : k.Layout x t) : IsValue t := by
  cases k with
  | one k =>
    rw [h]
    exact k.isValue_write x
  | exactly size k =>
    obtain ⟨pad, items, hitems, rfl⟩ := h
    exact .list pad items hitems.isValue
  | many k =>
    obtain ⟨pad, items, hitems, rfl⟩ := h
    exact .list pad items hitems.isValue

theorem Scalar.Holds.cons {k : Scalar} {x : k.Value} {xs : List k.Value}
    (h : k.Holds items (x :: xs)) :
    ∃ i more, items = i :: more ∧ i.core = (k.write x).toList ∧ k.Holds more xs := by
  obtain ⟨i, more, rfl, hi, hmore⟩ := List.map_eq_cons_iff.1 h
  exact ⟨i, more, rfl, hi, hmore⟩

theorem Scalar.Holds.nil {k : Scalar} (h : k.Holds items []) : items = [] :=
  List.map_eq_nil_iff.1 h

/-- An item without blanks. -/
def Item.plain (core : List Char) : Item := ⟨.none, core, .none⟩

@[simp] theorem Item.text_plain (core : List Char) : (Item.plain core).text = core := by
  simp [Item.text, plain]

/-- The written form of a value is a layout of it. -/
theorem Shape.layout_write (k : Shape) (x : k.Value) : k.Layout x (k.write x).toList := by
  have hlist : ∀ (k : Scalar) (xs : List k.Value), ∃ pad items, k.Holds items xs ∧
      (writeList k xs).toList = listText pad items := by
    intro k xs
    refine ⟨.none, xs.map fun x => .plain (k.write x).toList, ?_, ?_⟩
    · simp [Scalar.Holds, Item.plain]
    · simp [writeList, listText, commaSeparated, Function.comp_def]
  cases k with
  | one k => rfl
  | exactly size k => exact hlist k x.toList
  | many k => exact hlist k x

/-! ## Reading layouts -/

/-- A list of a fixed size is read up to its closing bracket. -/
theorem readExactly_layout {k : Scalar} {xs : List k.Value} (h : k.Holds items xs) {taken : Nat}
    (hat : AtItems (taken == 0) s items rest) {size : Nat} (hsize : xs.length = size)
    (expected : String) :
    ∃ u, skipBlanks u = ']' :: rest ∧
      readExactly k expected taken size s = .ok (⟨xs, hsize⟩, u) := by
  subst hsize
  induction xs generalizing items taken s with
  | nil =>
    obtain rfl := h.nil
    cases hat with
    | close hs => exact ⟨s, hs, rfl⟩
  | cons x xs ih =>
    obtain ⟨i, more, rfl, hi, hmore⟩ := h.cons
    cases hat with
    | item hnext hat =>
      have hlater : AtItems (taken + 1 == 0) _ more rest := hat
      obtain ⟨v, hv, hread⟩ := ih hmore hlater
      have hitem := k.read_write x hat.endsNumber
      rw [hi] at hnext
      exact ⟨v, hv, by simp only [readExactly, List.length_cons, hnext, hitem, hread]⟩

/-- A list of any size is read up to its closing bracket. -/
theorem readMany_layout {k : Scalar} {sofar xs : List k.Value} (h : k.Holds items xs)
    (hat : AtItems sofar.isEmpty s items rest) :
    ∃ u, skipBlanks u = ']' :: rest ∧ readMany k sofar s = .ok (sofar.reverse ++ xs, u) := by
  induction xs generalizing items sofar s with
  | nil =>
    obtain rfl := h.nil
    cases hat with
    | close hs =>
      refine ⟨s, hs, ?_⟩
      rw [readMany_of_none (nextItem_of_close hs _), List.append_nil]
  | cons x xs ih =>
    obtain ⟨i, more, rfl, hi, hmore⟩ := h.cons
    cases hat with
    | item hnext hat =>
      have hlater : AtItems (x :: sofar).isEmpty _ more rest := hat
      obtain ⟨v, hv, hread⟩ := ih hmore hlater
      have hitem := k.read_write x hat.endsNumber
      rw [hi] at hnext
      refine ⟨v, hv, ?_⟩
      rw [readMany_item rfl hnext hitem, hread]
      simp

theorem openList_listText (pad : Blanks) (items : List Item) (rest : List Char)
    (expected : String) :
    openList expected (listText pad items ++ rest) =
      .ok (pad.text ++ (commaSeparated (items.map Item.text) ++ ']' :: rest)) := by
  have hbracket : isBlank '[' = false := rfl
  simp [openList, listText, hbracket]

/-- A layout of a value is read as that value, up to its end. -/
theorem Shape.read_layout {k : Shape} {x : k.Value} (h : k.Layout x t) (a : Blanks)
    (hrest : endsNumber rest = true) : k.read (a.text ++ (t ++ rest)) = .ok (x, rest) := by
  rw [k.read_append]
  cases k with
  | one k =>
    rw [h]
    exact k.read_write x hrest
  | exactly size k =>
    obtain ⟨pad, items, hitems, rfl⟩ := h
    have hat : AtItems ((0 : Nat) == 0) _ items rest := atItems_list pad hitems.isValue rest
    obtain ⟨u, hu, hread⟩ :=
      readExactly_layout hitems hat x.length_toList (exactly size k).expected
    simp only [read, openList_listText, hread, closeList_of_close hu, Except.map]
    rfl
  | many k =>
    obtain ⟨pad, items, hitems, rfl⟩ := h
    have hat : AtItems ([] : List k.Value).isEmpty _ items rest :=
      atItems_list pad hitems.isValue rest
    obtain ⟨u, hu, hread⟩ := readMany_layout hitems hat
    simp only [read, openList_listText, hread, closeList_of_close hu, Except.map]
    rfl

end Chip8.Json

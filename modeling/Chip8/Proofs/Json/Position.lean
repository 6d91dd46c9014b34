-- SUMMARY: Where a reader stands in a list or an object, and what it finds there.
import Chip8.Proofs.Json.Extent

/-! # Positions in lists and objects

The readers of lists and objects are followed from item to item and from member
to member. A position names what is still to come up to the closing bracket:
`AtItems` and `AtMembers` hold behind the opening bracket of a list or an object,
and behind every value in it. -/

namespace Chip8.Json

variable {s t v rest after : List Char} {c : Char} {first : Bool} {items : List Item}
  {members : List Member}

/-- What is left without blanks is left behind the blanks that were there. -/
theorem endsNumber_of_skipBlanks (h : endsNumber (skipBlanks s) = true) : endsNumber s = true := by
  let blanks : Blanks := ⟨s.takeWhile isBlank, List.all_eq_true.1 List.all_takeWhile⟩
  have hs : blanks.text ++ skipBlanks s = s := List.takeWhile_append_dropWhile
  rw [← hs]
  exact endsNumber_append blanks h

/-! ## Lists -/

/-- The reader stands in front of these items of a list. What is left behind its
    closing bracket is `rest`. -/
inductive AtItems : Bool → List Char → List Item → List Char → Prop where
  | close {first : Bool} {s rest : List Char} (hs : skipBlanks s = ']' :: rest) :
      AtItems first s [] rest
  | item {first : Bool} {s u rest : List Char} {i : Item} {items : List Item}
      (hnext : nextItem first s = .ok (some (i.core ++ (i.after.text ++ u))))
      (hmore : AtItems false (i.after.text ++ u) items rest) : AtItems first s (i :: items) rest

theorem AtItems.endsNumber (h : AtItems false s items rest) : endsNumber s = true := by
  apply endsNumber_of_skipBlanks
  cases h with
  | close hs =>
    rw [hs]
    rfl
  | item hnext _ =>
    unfold nextItem at hnext
    split at hnext
    · cases hnext
    · next c t hs =>
      rw [hs]
      split at hnext
      · cases hnext
      · split at hnext
        · cases ‹false = true›
        · split at hnext
          · next hc =>
            rw [hc]
            rfl
          · cases hnext

theorem nextItem_of_close (hs : skipBlanks s = ']' :: rest) (first : Bool) :
    nextItem first s = .ok none := by
  simp [nextItem, hs]

theorem nextItem_of_first (hs : skipBlanks s = c :: t) (hc : startsValue c = true) :
    nextItem true s = .ok (some (c :: t)) := by
  have hclose : c ≠ ']' := ne_closing_of_startsValue hc .list
  simp [nextItem, hs, hclose]

theorem nextItem_of_comma (hs : skipBlanks s = ',' :: v) (hv : skipBlanks v = c :: t)
    (hc : startsValue c = true) : nextItem false s = .ok (some (c :: t)) := by
  have hclose : c ≠ ']' := ne_closing_of_startsValue hc .list
  simp [nextItem, hs, hv, hclose]

theorem closeList_of_close (hs : skipBlanks s = ']' :: rest) : closeList s = .ok rest := by
  simp [closeList, hs]

theorem AtItems.nil_of_nextItem (hat : AtItems first s items rest)
    (h : nextItem first s = .ok none) : items = [] := by
  cases hat with
  | close => rfl
  | item hnext =>
    rw [hnext] at h
    cases h

/-- Where a list closes no item is left. -/
theorem AtItems.nil_of_closeList (hat : AtItems first s items rest)
    (h : closeList s = .ok after) : items = [] :=
  hat.nil_of_nextItem (nextItem_of_close (close_of_closeList h) first)

/-- Without blanks an item with text behind it starts with its value. -/
theorem skipBlanks_item {i : Item} (hi : IsValue i.core) (rest : List Char) :
    skipBlanks (i.text ++ rest) = i.core ++ (i.after.text ++ rest) := by
  rw [Item.text, List.append_assoc, List.append_assoc, skipBlanks_append, hi.skipBlanks_eq]

theorem atItems_more (a : Blanks) (hitems : ∀ i ∈ items, IsValue i.core) (rest : List Char) :
    AtItems false (a.text ++ ((items.map Item.text).flatMap (',' :: ·) ++ ']' :: rest)) items
      rest := by
  induction items generalizing a with
  | nil =>
    apply AtItems.close
    rw [skipBlanks_append]
    exact skipBlanks_cons rfl
  | cons i items ih =>
    have hi := hitems i List.mem_cons_self
    obtain ⟨c, t, hcore, hc⟩ := hi.head
    have hnext := ih i.after fun j hj => hitems j (List.mem_cons_of_mem i hj)
    refine AtItems.item ?_ hnext
    rw [hcore]
    refine nextItem_of_comma ?_ ((skipBlanks_item hi _).trans (by rw [hcore]; rfl)) hc
    rw [skipBlanks_append]
    simp only [List.map_cons, List.flatMap_cons, List.cons_append, List.append_assoc]
    exact skipBlanks_cons rfl

/-- Behind the opening bracket of a list the reader stands in front of its items. -/
theorem atItems_list (pad : Blanks) (hitems : ∀ i ∈ items, IsValue i.core) (rest : List Char) :
    AtItems true (pad.text ++ (commaSeparated (items.map Item.text) ++ ']' :: rest)) items rest := by
  cases items with
  | nil =>
    apply AtItems.close
    rw [skipBlanks_append]
    exact skipBlanks_cons rfl
  | cons i items =>
    have hi := hitems i List.mem_cons_self
    obtain ⟨c, t, hcore, hc⟩ := hi.head
    have hnext := atItems_more i.after (fun j hj => hitems j (List.mem_cons_of_mem i hj)) rest
    refine AtItems.item ?_ hnext
    rw [hcore]
    refine nextItem_of_first ?_ hc
    rw [skipBlanks_append, List.map_cons, commaSeparated_cons, List.append_assoc,
      skipBlanks_item hi, hcore]
    rfl

/-! ## Objects -/

/-- The reader stands in front of these members of an object. What is left behind its
    closing bracket is `rest`. -/
inductive AtMembers : Bool → List Char → List Member → List Char → Prop where
  | close {first : Bool} {s rest : List Char} (hs : skipBlanks s = '\x7d' :: rest) :
      AtMembers first s [] rest
  | first {s u rest : List Char} {m : Member} {members : List Member}
      (hs : skipBlanks s = '"' :: (m.behindQuote ++ u))
      (hmore : AtMembers false (m.value.after.text ++ u) members rest) :
      AtMembers true s (m :: members) rest
  | later {s t u rest : List Char} {m : Member} {members : List Member}
      (hs : skipBlanks s = ',' :: t) (ht : skipBlanks t = '"' :: (m.behindQuote ++ u))
      (hmore : AtMembers false (m.value.after.text ++ u) members rest) :
      AtMembers false s (m :: members) rest

theorem AtMembers.endsNumber (h : AtMembers false s members rest) : endsNumber s = true := by
  apply endsNumber_of_skipBlanks
  cases h with
  | close hs =>
    rw [hs]
    rfl
  | later hs =>
    rw [hs]
    rfl

/-- In front of a member its name comes next. -/
theorem AtMembers.nextName_eq {m : Member} (h : AtMembers first s (m :: members) rest) :
    ∃ u, AtMembers false (m.value.after.text ++ u) members rest ∧
      nextName first s =
        (readString (m.behindQuote ++ u)).map fun (text, rest) => (some text, rest) := by
  cases h with
  | @first _ u _ _ _ hs hmore => exact ⟨u, hmore, by simp [nextName, hs]⟩
  | @later _ _ u _ _ _ hs ht hmore => exact ⟨u, hmore, by simp [nextName, hs, ht]⟩

theorem AtMembers.nextName_nil (h : AtMembers first s [] rest) :
    nextName first s = .ok (none, rest) := by
  cases h with
  | close hs => simp [nextName, hs]

theorem skipBlanks_member (m : Member) (rest : List Char) :
    skipBlanks (m.text ++ rest) = '"' :: (m.behindQuote ++ rest) := by
  rw [Member.text, List.append_assoc, skipBlanks_append]
  exact skipBlanks_cons rfl

theorem atMembers_more (a : Blanks) (members : List Member) (rest : List Char) :
    AtMembers false (a.text ++ ((members.map Member.text).flatMap (',' :: ·) ++ '\x7d' :: rest))
      members rest := by
  induction members generalizing a with
  | nil =>
    apply AtMembers.close
    rw [skipBlanks_append]
    exact skipBlanks_cons rfl
  | cons m members ih =>
    refine AtMembers.later ?_ (skipBlanks_member m _) (ih m.value.after)
    rw [skipBlanks_append]
    simp only [List.map_cons, List.flatMap_cons, List.cons_append, List.append_assoc]
    exact skipBlanks_cons rfl

/-- Behind the opening bracket of an object the reader stands in front of its members. -/
theorem atMembers_object (pad : Blanks) (members : List Member) (rest : List Char) :
    AtMembers true (pad.text ++ (commaSeparated (members.map Member.text) ++ '\x7d' :: rest))
      members rest := by
  cases members with
  | nil =>
    apply AtMembers.close
    rw [skipBlanks_append]
    exact skipBlanks_cons rfl
  | cons m members =>
    refine AtMembers.first ?_ (atMembers_more m.value.after members rest)
    rw [skipBlanks_append, List.map_cons, commaSeparated_cons, List.append_assoc]
    exact skipBlanks_member m _

end Chip8.Json

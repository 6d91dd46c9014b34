-- SUMMARY: Which saved states are taken over, and that they survive being written as text.
import Chip8.Proofs.Json.Members
import Chip8.SaveState.Format

/-! # Saved states

A saved state is proper when its stack is within the limit and its pixels are
lit or dark. Exactly the proper states are restored, and each of them is read
back from the text that is written for it. -/

namespace Chip8

/-- Every pixel is lit or dark. -/
def Display.Crisp (d : Display) : Prop := ∀ p : Fin displaySize, d.pixels.get p = 0 ∨ d.pixels.get p = lit

namespace SaveState

/-- The stack is within the limit and every pixel is lit or dark. -/
structure Proper (s : SaveState) : Prop where
  calls : s.stack.length ≤ callLimit
  pixels : s.display.Crisp

theorem isPixel_iff {byte : UInt8} : isPixel byte = true ↔ byte = 0 ∨ byte = lit := by
  simp [isPixel]

theorem crisp_iff_mem (d : Display) : d.Crisp ↔ ∀ b ∈ d.pixels.toList, b = 0 ∨ b = lit := by
  constructor
  · intro h b hb
    obtain ⟨p, hp, rfl⟩ := Vector.mem_iff_getElem.1 (Vector.mem_toList_iff.1 hb)
    exact h ⟨p, hp⟩
  · intro h p
    exact h _ (Vector.mem_toList_iff.2 (Vector.getElem_mem p.isLt))

theorem find?_pixels_eq_none_iff (d : Display) :
    d.pixels.toList.find? (!isPixel ·) = none ↔ d.Crisp := by
  simp only [crisp_iff_mem, List.find?_eq_none, Bool.not_eq_true, Bool.not_eq_false', isPixel_iff]

/-- Nothing is wrong with exactly the proper states. -/
theorem fault?_eq_none_iff (s : SaveState) : s.fault? = none ↔ s.Proper := by
  unfold fault?
  split
  · next hcalls =>
    simp only [reduceCtorEq, false_iff]
    exact fun h => absurd h.calls (Nat.not_le.2 hcalls)
  · next hcalls =>
    rw [Option.map_eq_none_iff, find?_pixels_eq_none_iff]
    exact ⟨fun h => ⟨Nat.not_lt.1 hcalls, h⟩, fun h => h.pixels⟩

/-! ## As text -/

theorem record_labelled : record.Labelled where
  plain f := by
    cases f <;> exact List.all_eq_true.1 rfl
  field? f := by cases f <;> rfl
  distinct := by decide

theorem ofRow_toRow (s : SaveState) : ofRow s.toRow = s := rfl

theorem toRow_ofRow (row : record.Row) : (ofRow row).toRow = row := by
  funext f
  cases f <;> rfl

/-- A state is read from the texts of its record, if it is proper. -/
theorem ofJson_eq_ok_iff {text : String} {s : SaveState} :
    ofJson text = .ok s ↔ record.parse text = .ok s.toRow ∧ s.Proper := by
  rw [← fault?_eq_none_iff]
  constructor
  · intro h
    unfold ofJson at h
    split at h
    · cases h
    · next row hparse =>
      split at h
      · cases h
      · next hfault =>
        cases h
        exact ⟨by rw [hparse, toRow_ofRow], hfault⟩
  · rintro ⟨hparse, hs⟩
    simp [ofJson, hparse, ofRow_toRow, hs]

/-- What is not read is a bad state. -/
theorem badSave_of_ofJson {text : String} {fault : Fault} (h : ofJson text = .error fault) :
    ∃ cause, fault = .badSave cause := by
  unfold ofJson at h
  split at h
  · cases h
    exact ⟨_, rfl⟩
  · split at h
    · cases h
      exact ⟨_, rfl⟩
    · cases h

/-- A proper state is read back from its text. -/
theorem ofJson_toJson {s : SaveState} (hs : s.Proper) : ofJson s.toJson = .ok s :=
  ofJson_eq_ok_iff.2 ⟨record.parse_write record_labelled s.toRow, hs⟩

end SaveState

/-! ## Restoring -/

namespace Machine

/-- A proper state is taken over. -/
theorem restore_of_proper (m : Machine) {s : SaveState} (hs : s.Proper) :
    m.restore s = ⟨.ok (), m.withState s, [.restoring s.pc]⟩ := by
  simp [restore, (SaveState.fault?_eq_none_iff s).2 hs]

/-- Any other state changes nothing. -/
theorem restore_of_not_proper (m : Machine) {s : SaveState} (hs : ¬s.Proper) :
    ∃ fault, m.restore s = ⟨.error (.badSave fault), m, []⟩ := by
  cases hfault : s.fault? with
  | none => exact absurd ((SaveState.fault?_eq_none_iff s).1 hfault) hs
  | some fault => exact ⟨fault, by simp [restore, hfault]⟩

end Machine

end Chip8

-- SUMMARY: Keys by their numbers, and the lowest one that is down.
import Chip8.Keypad

/-! # Keys

A machine asks for keys in two ways. It looks whether the key of a number is down, and
numbers above those of all keys count as keys that are up; or it takes the lowest key that
is down. -/

namespace Chip8.Keypad

variable {p : Keypad} {key : Key} {number : UInt8}

/-! ## Keys by number -/

/-- A number is down when it is that of a key which is down. -/
theorem isDown_iff :
    p.isDown number = true ↔ ∃ key : Key, key.val = number.toNat ∧ p.down.get key = true := by
  unfold isDown
  constructor
  · intro h
    split at h
    · next hkey => exact ⟨⟨number.toNat, hkey⟩, rfl, h⟩
    · cases h
  · rintro ⟨key, hkey, hdown⟩
    have hlt : number.toNat < 16 := hkey ▸ key.isLt
    obtain rfl : key = ⟨number.toNat, hlt⟩ := Fin.ext hkey
    rw [dif_pos hlt]
    exact hdown

/-- Otherwise it is that of a key which is up, or too large for any. -/
theorem isDown_eq_false_iff :
    p.isDown number = false ↔
      15 < number.toNat ∨ ∃ key : Key, key.val = number.toNat ∧ p.down.get key = false := by
  unfold isDown
  constructor
  · intro h
    split at h
    · next hkey => exact .inr ⟨⟨number.toNat, hkey⟩, rfl, h⟩
    · next hkey => exact .inl (Nat.lt_of_succ_le (Nat.not_lt.1 hkey))
  · rintro (hlarge | ⟨key, hkey, hup⟩)
    · rw [dif_neg (Nat.not_lt.2 hlarge)]
    · have hlt : number.toNat < 16 := hkey ▸ key.isLt
      obtain rfl : key = ⟨number.toNat, hlt⟩ := Fin.ext hkey
      rw [dif_pos hlt]
      exact hup

/-! ## The lowest key -/

/-- No key is down. -/
def AllUp (p : Keypad) : Prop := ∀ key, p.down.get key = false

/-- A key is down, and none below it is. -/
structure Lowest (p : Keypad) (key : Key) : Prop where
  down : p.down.get key = true
  least : ∀ k, k < key → p.down.get k = false

theorem lowest?_eq (p : Keypad) : p.lowest? = (List.finRange 16).find? p.down.get := rfl

theorem lowest?_eq_none_iff : p.lowest? = none ↔ p.AllUp := by
  simp [lowest?_eq, AllUp, List.find?_eq_none]

theorem lowest?_eq_some_iff : p.lowest? = some key ↔ p.Lowest key := by
  rw [lowest?_eq, List.find?_eq_some_iff_getElem]
  constructor
  · rintro ⟨hdown, i, hi, hkey, hleast⟩
    rw [List.getElem_finRange] at hkey
    subst hkey
    refine ⟨hdown, fun k hk => ?_⟩
    simpa using hleast k.val hk
  · rintro ⟨hdown, hleast⟩
    refine ⟨hdown, key.val, by simp, by simp, fun j hj => ?_⟩
    simpa using hleast ⟨j, Nat.lt_trans hj key.isLt⟩ hj

end Chip8.Keypad

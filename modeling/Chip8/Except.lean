-- SUMMARY: The results of a computation that may fail, after a function has been applied to them.

/-! # Computations that may fail

A function applied to the result of a computation leaves its failures alone. The
result of a reader is what it has read and the characters that are left. -/

namespace Chip8

variable {ε α β σ : Type}

theorem map_eq_ok_iff {e : Except ε α} {f : α → β} {b : β} :
    e.map f = .ok b ↔ ∃ a, e = .ok a ∧ f a = b := by
  cases e with
  | error _ => simp [Except.map]
  | ok a => simp [Except.map]

theorem map_eq_error_iff {e : Except ε α} {f : α → β} {fault : ε} :
    e.map f = .error fault ↔ e = .error fault := by
  cases e with
  | error _ => simp [Except.map]
  | ok a => simp [Except.map]

theorem map_map {γ : Type} (e : Except ε α) (f : α → β) (g : β → γ) :
    (e.map f).map g = e.map (g ∘ f) := by
  cases e <;> rfl

theorem isOk_map (e : Except ε α) (f : α → β) : (e.map f).isOk = e.isOk := by
  cases e <;> rfl

/-- Whatever is made of the value that was read, the same characters are left. -/
theorem map_read_eq_ok {e : Except ε (α × σ)} {f : α → β} {b : β} {rest : σ}
    (h : e.map (fun p => (f p.1, p.2)) = .ok (b, rest)) : ∃ a, e = .ok (a, rest) ∧ f a = b := by
  obtain ⟨⟨a, left⟩, ha, hpair⟩ := map_eq_ok_iff.1 h
  obtain ⟨hb, rfl⟩ := Prod.mk.inj hpair
  exact ⟨a, ha, hb⟩

/-- A value put in front of the characters that are left changes none of them. -/
theorem map_left_eq_ok {e : Except ε σ} {f : σ → β} {b : β} {rest : σ}
    (h : e.map (fun left => (f left, left)) = .ok (b, rest)) : e = .ok rest ∧ f rest = b := by
  obtain ⟨left, hleft, hpair⟩ := map_eq_ok_iff.1 h
  obtain ⟨hb, rfl⟩ := Prod.mk.inj hpair
  exact ⟨hleft, hb⟩

end Chip8

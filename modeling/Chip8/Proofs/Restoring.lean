-- SUMMARY: A saved state is taken over whole or not at all, and of the machine only its edge is left.
import Chip8.Proofs.SaveState

/-! # Restoring

A saved state is looked through before any of it is taken over. What is wrong with it is
told in a fixed order: the stack comes before the pixels, and these come in their own
order. A state with nothing wrong replaces the whole machine, up to the treatment of the
edge, which no saved state has. -/

namespace Chip8

namespace SaveState

variable {s : SaveState} {cause : SaveFault}

/-- What a state is refused for: too many return addresses, or else the first of its pixels
    that is neither lit nor dark. -/
inductive Flaw (s : SaveState) : SaveFault → Prop where
  | calls (hcalls : 16 < s.stack.length) : Flaw s (.tooManyCalls s.stack.length)
  | pixel {p : Fin displaySize} (hcalls : s.stack.length ≤ 16)
      (hbad : s.display.pixels.get p ≠ 0 ∧ s.display.pixels.get p ≠ 255)
      (hfirst : ∀ q, q < p → s.display.pixels.get q = 0 ∨ s.display.pixels.get q = 255) :
      Flaw s (.badPixel (s.display.pixels.get p))

theorem not_isPixel_iff {byte : UInt8} : (!isPixel byte) = true ↔ byte ≠ 0 ∧ byte ≠ lit := by
  rw [Bool.not_eq_true', ← Bool.not_eq_true, isPixel_iff, not_or]

/-- The search for a bad pixel finds the first one. -/
theorem find?_pixels_eq_some_iff {d : Display} {value : UInt8} :
    d.pixels.toList.find? (!isPixel ·) = some value ↔
      ∃ p : Fin displaySize, d.pixels.get p = value ∧ (value ≠ 0 ∧ value ≠ lit) ∧
        ∀ q, q < p → d.pixels.get q = 0 ∨ d.pixels.get q = lit := by
  simp only [List.find?_eq_some_iff_getElem, not_isPixel_iff, Vector.getElem_toList,
    Bool.not_not, isPixel_iff]
  constructor
  · rintro ⟨hbad, i, hi, hvalue, hfirst⟩
    rw [Vector.length_toList] at hi
    exact ⟨⟨i, hi⟩, hvalue, hbad, fun q hq => hfirst q.val hq⟩
  · rintro ⟨p, hvalue, hbad, hfirst⟩
    have hp : p.val < d.pixels.toList.length := by
      rw [Vector.length_toList]
      exact p.isLt
    exact ⟨hbad, p.val, hp, hvalue, fun j hj => hfirst ⟨j, Nat.lt_trans hj p.isLt⟩ hj⟩

/-- A state is refused for exactly its flaw. -/
theorem fault?_eq_some_iff : s.fault? = some cause ↔ s.Flaw cause := by
  unfold fault?
  split
  · next hcalls =>
    rw [Option.some.injEq]
    constructor
    · rintro rfl
      exact .calls hcalls
    · rintro (_ | ⟨hfew, -, -⟩)
      · rfl
      · exact absurd hfew (Nat.not_le.2 hcalls)
  · next hcalls =>
    rw [Option.map_eq_some_iff]
    simp only [find?_pixels_eq_some_iff]
    constructor
    · rintro ⟨value, ⟨p, rfl, hbad, hfirst⟩, rfl⟩
      exact .pixel (Nat.not_lt.1 hcalls) hbad hfirst
    · rintro (hmany | ⟨-, hbad, hfirst⟩)
      · exact absurd hmany hcalls
      · exact ⟨_, ⟨_, rfl, hbad, hfirst⟩, rfl⟩

end SaveState

namespace Machine

variable {s : SaveState} {fault : Fault}

theorem restore_eq_ok_iff (m : Machine) : (m.restore s).result = .ok () ↔ s.Proper := by
  rw [← SaveState.fault?_eq_none_iff]
  cases hfault : s.fault? with
  | none => simp [restore, hfault]
  | some cause => simp [restore, hfault]

theorem restore_eq_error_iff (m : Machine) :
    (m.restore s).result = .error fault ↔ ∃ cause, s.Flaw cause ∧ fault = .badSave cause := by
  simp only [← SaveState.fault?_eq_some_iff]
  cases hfault : s.fault? with
  | none => simp [restore, hfault]
  | some cause => simp [restore, hfault, eq_comm]

/-- The machine in a saved state keeps nothing of its own but its treatment of the edge. -/
theorem withState_congr {m other : Machine} (h : other.edge = m.edge) (s : SaveState) :
    other.withState s = m.withState s := by
  rw [withState, h]
  rfl

/-- Restoring succeeds for exactly the states whose stack is within the limit and whose
    pixels are all lit or dark. It is refused for what is wrong first, and then the machine
    is as it was. If it succeeds, the machine runs in that state, and of what it was before
    nothing is left but its treatment of the edge. -/
theorem restore_whole_or_not (s : SaveState) (m : Machine) :
    let restored := (m.restore s).machine
    ((m.restore s).result = .ok () ↔
        s.stack.length ≤ 16 ∧
          ∀ p : Fin displaySize, s.display.pixels.get p = 0 ∨ s.display.pixels.get p = 255) ∧
      (∀ fault, (m.restore s).result = .error fault ↔
        ∃ cause, s.Flaw cause ∧ fault = .badSave cause) ∧
      (∀ fault, (m.restore s).result = .error fault → restored = m) ∧
      ((m.restore s).result = .ok () →
        restored.saveState = s ∧ restored.mode = .running ∧ restored.edge = m.edge ∧
          ∀ other : Machine, other.edge = m.edge → (other.restore s).machine = restored) := by
  intro restored
  refine ⟨?_, fun fault => m.restore_eq_error_iff, fun fault hfault => ?_, fun hok => ?_⟩
  · rw [restore_eq_ok_iff]
    exact ⟨fun hs => ⟨hs.calls, hs.pixels⟩, fun hs => ⟨hs.1, hs.2⟩⟩
  · have hbad : ¬s.Proper := by
      rw [← m.restore_eq_ok_iff, hfault]
      exact nofun
    obtain ⟨cause, heq⟩ := m.restore_of_not_proper hbad
    simp only [restored, heq]
  · have hs := m.restore_eq_ok_iff.1 hok
    have hrestored : restored = m.withState s := by
      simp only [restored, m.restore_of_proper hs]
    rw [hrestored]
    refine ⟨rfl, rfl, rfl, fun other hedge => ?_⟩
    rw [other.restore_of_proper hs]
    exact withState_congr hedge s

/-- A state with two pixels that are neither lit nor dark. -/
def spotted : SaveState :=
  { (start .clip).saveState with
    display := ⟨Vector.ofFn fun p => if p.val = 3 then 9 else if p.val = 5 then 7 else 0⟩ }

/-- A machine that waits for a key, with a key down and a timer running. -/
def engaged : Machine :=
  { start .spill with
    keypad := Keypad.released.set 4 true
    delay := 60
    mode := .awaiting 2 }

/-- Of two bad pixels the first is told, and the machine goes on waiting. In a good state it
    is as if it had just been switched on. -/
theorem restore_engaged :
    (engaged.restore spotted).result = .error (.badSave (.badPixel 9)) ∧
      (engaged.restore spotted).machine = engaged ∧
      Fault.message (.badSave (.badPixel 9)) =
        "Invalid save state: framebuffer pixel value 9 is neither 0 nor 255" ∧
      (engaged.restore (start .clip).saveState).result = .ok () ∧
      (engaged.restore (start .clip).saveState).machine = start .spill := by
  have hget (p : Fin displaySize) : spotted.display.pixels.get p =
      if p.val = 3 then 9 else if p.val = 5 then 7 else 0 := Vector.getElem_ofFn p.isLt
  have hnine : spotted.display.pixels.get ⟨3, by decide⟩ = 9 := hget _
  have hflaw : spotted.Flaw (.badPixel 9) := by
    rw [← hnine]
    refine .pixel (Nat.zero_le 16) (by rw [hnine]; decide) fun q hq => .inl ?_
    have hlt : q.val < 3 := hq
    rw [hget, if_neg (Nat.ne_of_lt hlt), if_neg (by omega)]
  obtain ⟨-, hrefused, hkept, -⟩ := restore_whole_or_not spotted engaged
  have herror := (hrefused _).2 ⟨_, hflaw, rfl⟩
  have hproper : (start .clip).saveState.Proper :=
    ⟨Nat.zero_le 16, fun p => .inl (Vector.getElem_replicate p.isLt)⟩
  obtain ⟨hgood, -, -, htaken⟩ := restore_whole_or_not (start .clip).saveState engaged
  have hok : (engaged.restore (start .clip).saveState).result = .ok () :=
    hgood.2 ⟨hproper.calls, hproper.pixels⟩
  obtain ⟨-, -, -, hsame⟩ := htaken hok
  have hfresh : (start .spill).restore (start .clip).saveState =
      ⟨.ok (), start .spill, [.restoring 0x200]⟩ := restore_of_proper _ hproper
  refine ⟨herror, hkept _ herror, rfl, hok, ?_⟩
  rw [← hsame (start .spill) rfl, hfresh]

end Machine

end Chip8

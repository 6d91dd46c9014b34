-- SUMMARY: What the operations of a session make of its keys, key by key.
import Chip8.Proofs.Ticker
import Chip8.Session

/-! # The keys of a session

A session holds each key in two places: the keypad of its machine says whether it
is down, and the pending keys say when it was last reported. For each operation,
what it makes of the two for every key. -/

namespace Chip8.Session

variable {s : Session}

/-- Whether a key is down, and when it was last reported if it is pending. -/
def keyState (s : Session) (key : Key) : Bool × Option Nat :=
  (s.ticker.machine.keypad.down.get key, s.pending.get key)

/-- A session with no key down starts with no key pending. -/
theorem keyState_start {ticker : Ticker} (h : ticker.machine.keypad = .released) (path : String)
    (key : Key) : (start ticker path).keyState key = (false, none) := by
  have hdown : Keypad.released.down.get key = false := Vector.getElem_replicate key.isLt
  have hpending : (start ticker path).pending.get key = none := Vector.getElem_replicate key.isLt
  rw [keyState, hpending, start, h, hdown]

/-- A frame changes the machine and what is shown. -/
theorem frame_eq (s : Session) (dice : Dice) :
    ∃ shown, (s.frame dice).session =
      { s.withMachine (s.ticker.tick dice).ticker.machine with shown := shown } := by
  unfold frame
  simp only [withMachine]
  rw [← s.ticker.tick_machine dice]
  split <;> exact ⟨_, rfl⟩

theorem keyState_frame (s : Session) (dice : Dice) (key : Key) :
    (s.frame dice).session.keyState key = s.keyState key := by
  obtain ⟨shown, heq⟩ := s.frame_eq dice
  rw [heq]
  simp only [keyState, withMachine, Ticker.tick_keypad]

/-! ## Holding and releasing -/

/-- The session with other keys down and other keys pending. -/
def withKeys (s : Session) (keypad : Keypad) (pending : Vector (Option Nat) 16) : Session :=
  { s.withMachine { s.ticker.machine with keypad := keypad } with pending := pending }

theorem withKeys_withKeys (s : Session) (keypad keypad' : Keypad)
    (pending pending' : Vector (Option Nat) 16) :
    (s.withKeys keypad pending).withKeys keypad' pending' = s.withKeys keypad' pending' := rfl

theorem keyState_withKeys_set (s : Session) (k key : Key) (down : Bool) (time : Option Nat) :
    (s.withKeys (s.ticker.machine.keypad.set k down) (s.pending.setIfInBounds k time)).keyState key =
      if key = k then (down, time) else s.keyState key := by
  have hdown : (s.ticker.machine.keypad.set k down).down.get key =
      if k.val = key.val then down else s.ticker.machine.keypad.down.get key :=
    Vector.getElem_set k.isLt key.isLt
  have hpending : (s.pending.setIfInBounds k time).get key =
      if k.val = key.val then time else s.pending.get key :=
    Vector.getElem_setIfInBounds key.isLt
  simp only [keyState, withKeys, withMachine, hdown, hpending, Fin.ext_iff, eq_comm]
  split <;> rfl

theorem hold_eq (s : Session) (time : Nat) (key : Key) :
    s.hold time key =
      s.withKeys (s.ticker.machine.keypad.set key true) (s.pending.setIfInBounds key (some time)) := rfl

theorem keyState_hold (s : Session) (time : Nat) (k key : Key) :
    (s.hold time k).keyState key = if key = k then (true, some time) else s.keyState key := by
  rw [hold_eq, keyState_withKeys_set]

theorem releaseIfDue_of_due {time : Nat} {key : Key} (h : isDue time (s.pending.get key) = true) :
    releaseIfDue time s key =
      s.withKeys (s.ticker.machine.keypad.set key false) (s.pending.setIfInBounds key none) := by
  rw [releaseIfDue, if_pos h]
  rfl

theorem releaseIfDue_of_not_due {time : Nat} {key : Key} (h : isDue time (s.pending.get key) = false) :
    releaseIfDue time s key = s := by
  simp only [releaseIfDue, h, Bool.false_eq_true, if_false]

/-- Releasing what is due changes keys alone. -/
theorem foldl_releaseIfDue_eq (s : Session) (time : Nat) (keys : List Key) :
    ∃ keypad pending, keys.foldl (releaseIfDue time) s = s.withKeys keypad pending := by
  induction keys generalizing s with
  | nil => exact ⟨s.ticker.machine.keypad, s.pending, rfl⟩
  | cons k keys ih =>
    obtain ⟨keypad, pending, heq⟩ := ih (releaseIfDue time s k)
    rw [List.foldl_cons, heq]
    cases hdue : isDue time (s.pending.get k) with
    | false =>
      rw [releaseIfDue_of_not_due hdue]
      exact ⟨keypad, pending, rfl⟩
    | true =>
      rw [releaseIfDue_of_due hdue, withKeys_withKeys]
      exact ⟨keypad, pending, rfl⟩

theorem releaseDue_eq (s : Session) (time : Nat) :
    ∃ keypad pending, s.releaseDue time = s.withKeys keypad pending :=
  s.foldl_releaseIfDue_eq time (List.finRange 16)

/-- What a key that may be due has come to. -/
def released (time : Nat) (state : Bool × Option Nat) : Bool × Option Nat :=
  if isDue time state.2 then (false, none) else state

/-- What is due stays due. -/
theorem isDue_mono {earlier later : Nat} {reported : Option Nat} (h : earlier ≤ later)
    (hdue : isDue earlier reported = true) : isDue later reported = true := by
  cases reported with
  | none => cases hdue
  | some time =>
    simp only [isDue, decide_eq_true_eq] at hdue ⊢
    exact Nat.lt_of_lt_of_le hdue (Nat.sub_le_sub_right h time)

/-- A check makes no difference to a later one. -/
theorem released_released {earlier later : Nat} (h : earlier ≤ later)
    (state : Bool × Option Nat) : released later (released earlier state) = released later state := by
  have hnone : isDue later none = false := rfl
  cases hdue : isDue earlier state.2 with
  | true =>
    simp only [released, hdue, isDue_mono h hdue, if_true, hnone, Bool.false_eq_true, if_false]
  | false => simp only [released, hdue, Bool.false_eq_true, if_false]

theorem keyState_releaseIfDue (s : Session) (time : Nat) (k key : Key) :
    (releaseIfDue time s k).keyState key =
      if key = k then released time (s.keyState key) else s.keyState key := by
  cases hdue : isDue time (s.pending.get k) with
  | false =>
    rw [releaseIfDue_of_not_due hdue]
    split
    · next hk =>
      subst hk
      simp only [released, keyState, hdue, Bool.false_eq_true, if_false]
    · rfl
  | true =>
    rw [releaseIfDue_of_due hdue, keyState_withKeys_set]
    split
    · next hk =>
      subst hk
      simp only [released, keyState, hdue, if_true]
    · rfl

/-- Each key among some is released if it is due, and no other key is touched. -/
theorem keyState_foldl_releaseIfDue (s : Session) (time : Nat) (keys : List Key) (key : Key) :
    (keys.foldl (releaseIfDue time) s).keyState key =
      if keys.contains key then released time (s.keyState key) else s.keyState key := by
  induction keys generalizing s with
  | nil => rfl
  | cons k keys ih =>
    rw [List.foldl_cons, ih, keyState_releaseIfDue]
    by_cases hk : key = k
    · simp only [hk, if_true, released_released (Nat.le_refl time), ite_self, List.contains_cons, beq_self_eq_true,
        Bool.true_or]
    · simp only [hk, if_false, List.contains_cons, beq_eq_false_iff_ne.2 hk, Bool.false_or]

/-- A check releases exactly the keys that are due. -/
theorem keyState_releaseDue (s : Session) (time : Nat) (key : Key) :
    (s.releaseDue time).keyState key = released time (s.keyState key) := by
  rw [releaseDue, keyState_foldl_releaseIfDue, if_pos (List.contains_iff_mem.2 (List.mem_finRange key))]

/-! ## Keys that no check releases -/

/-- Whether a key is down without being pending, so that no check releases it. -/
def stuck (state : Bool × Option Nat) : Bool := state.1 && state.2.isNone

theorem stuck_released (time : Nat) (state : Bool × Option Nat) :
    stuck (released time state) = stuck state := by
  obtain ⟨down, reported⟩ := state
  cases reported with
  | none => rfl
  | some t =>
    unfold released
    split <;> simp [stuck]

theorem stuck_keyState (s : Session) (key : Key) :
    stuck (s.keyState key) = true ↔
      s.ticker.machine.keypad.down.get key = true ∧ s.pending.get key = none := by
  simp [stuck, keyState]

/-- What is reported long ago is released, and only a key that is stuck stays down. -/
theorem released_of_late {time : Nat} {state : Bool × Option Nat}
    (hlate : ∀ t, state.2 = some t → t + releaseDelay < time) :
    (released time state).1 = stuck state := by
  obtain ⟨down, reported⟩ := state
  cases reported with
  | none => simp [released, stuck, isDue]
  | some t =>
    have hdue : isDue time (some t) = true := by
      have hlater := hlate t rfl
      simp only [isDue, decide_eq_true_eq]
      omega
    simp [released, stuck, hdue]

theorem down_releaseDue {key : Key} {time : Nat}
    (hlate : ∀ t, s.pending.get key = some t → t + releaseDelay < time) :
    (s.releaseDue time).ticker.machine.keypad.down.get key = stuck (s.keyState key) :=
  (congrArg Prod.fst (s.keyState_releaseDue time key)).trans (released_of_late hlate)

end Chip8.Session

-- SUMMARY: Which keys of a session stay down when nobody presses them any more.
import Chip8.Proofs.Session.Timeline

/-! # Keys that stay down

A key that is pressed is pending, and a check that comes late enough releases it.
Loading a state forgets which keys are pending. The keys that are down in the
state come down with it, and no check releases them: they stay down until they are
pressed again or another state is loaded. -/

namespace Chip8

/-- Whether something happens to the keyboard. -/
def Moment.IsKey (now : Moment) : Prop := ∃ e, now.event = .key e

/-- The keypad of the state that a file holds, if it holds one. -/
def Session.keypadOf (contents : Except File.Fault ByteArray) : Option Keypad :=
  match stateOf contents with
  | .ok state => some state.keypad
  | .error _ => none

namespace Scene

/-- The keypad of the state in the file of the session: as it was when the state
    was saved, or as the file had it from the beginning. -/
def savedKeypad (start : Scene) : List Moment → Option Keypad
  | [] => Session.keypadOf (start.files start.session.savePath)
  | now :: earlier =>
    match now.command? with
    | some .save => some (start.after earlier).session.ticker.machine.keypad
    | _ => start.savedKeypad earlier

/-- Whether a key came down with a state that was loaded, and neither was it
    pressed since nor was another state loaded. -/
def stranded (start : Scene) (key : Key) : List Moment → Bool
  | [] => false
  | now :: earlier =>
    match now.command? with
    | some .load =>
      match start.savedKeypad earlier with
      | some keypad => keypad.down.get key
      | none => start.stranded key earlier
    | some (.hold other) => other ≠ key && start.stranded key earlier
    | _ => start.stranded key earlier

theorem next_of_command (s : Scene) {now : Moment} {c : Command} (h : now.command? = some c) :
    s.next now = s.obey now.time c := by
  obtain ⟨time, event⟩ := now
  cases event with
  | key e =>
    have he : e.command? = some c := h
    rw [next_key, he]
    rfl
  | frame | check => cases h

/-! ## The file -/

theorem next_files_of_no_save (s : Scene) {now : Moment} (h : now.command? ≠ some .save) :
    (s.next now).files = s.files := by
  cases hc : now.command? with
  | some c =>
    rw [next_of_command s hc]
    cases c with
    | save => exact absurd hc h
    | stop | load | hold => rfl
  | none =>
    obtain ⟨time, event⟩ := now
    cases event with
    | key e =>
      have he : e.command? = none := hc
      rw [next_key, he]
      rfl
    -- `rfl` would unfold the frame
    | frame | check => simp only [next]

theorem keypadOf_next_of_save {s : Scene} (hs : s.session.ticker.machine.Savable) {now : Moment}
    (h : now.command? = some .save) :
    Session.keypadOf ((s.next now).files s.session.savePath) =
      some s.session.ticker.machine.keypad := by
  rw [next_of_command s h]
  simp only [obey, Files.put, if_true, Session.keypadOf, s.session.stateOf_saveText hs.proper]
  rfl

theorem keypadOf_after {start : Scene} (hstart : start.session.ticker.machine.Savable)
    (history : List Moment) :
    Session.keypadOf ((start.after history).files start.session.savePath) =
      start.savedKeypad history := by
  induction history with
  | nil => rfl
  | cons now earlier ih =>
    have hpath := start.after_savePath earlier
    unfold savedKeypad
    split
    · next hsave =>
      rw [after, ← hpath]
      exact keypadOf_next_of_save (after_savable hstart earlier) hsave
    · next hsave =>
      rw [after, next_files_of_no_save _ hsave]
      exact ih

/-! ## The keys -/

/-- What a moment makes of a key, from what it was and what is in the file. -/
def keyAfter (saved : Option Keypad) (key : Key) (now : Moment) (state : Bool × Option Nat) :
    Bool × Option Nat :=
  match now.event, now.command? with
  | .check, _ => Session.released now.time state
  | _, some .load =>
    match saved with
    | some keypad => (keypad.down.get key, none)
    | none => state
  | _, some (.hold other) => if key = other then (true, some now.time) else state
  | _, _ => state

theorem keyState_loaded (s : Session) (state : SaveState) (key : Key) :
    (s.loaded state).keyState key = (state.keypad.down.get key, none) := by
  have hpending : (s.loaded state).pending.get key = none := Vector.getElem_replicate key.isLt
  rw [Session.keyState, hpending]
  rfl

end Scene

theorem Session.keyState_next {σ : Type} {store : File.Store (StateM σ)} (s : Session)
    (now : Moment) (files : σ) (key : Key) :
    (s.next store now files).keyState key =
      Scene.keyAfter (keypadOf ((store.read s.savePath).run files).1) key now (s.keyState key) := by
  obtain ⟨time, event⟩ := now
  cases event with
  | frame dice => exact s.keyState_frame dice key
  | check => exact s.keyState_releaseDue time key
  | key e =>
    simp only [Scene.keyAfter, Moment.command?]
    cases hc : e.command? with
    | none => rw [next_of_no_command hc]
    | some c =>
      have hnow : Moment.command? ⟨time, .key e⟩ = some c := hc
      rw [next_of_command hnow]
      cases c with
      | stop => rfl
      | save =>
        obtain ⟨status, heq⟩ := s.afterSave_eq ((s.writeText store).run files).1
        rw [obey, heq]
        rfl
      | hold other => exact s.keyState_hold time other key
      | load =>
        rw [obey, keypadOf]
        cases hstate : stateOf ((store.read s.savePath).run files).1 with
        | ok state => rw [afterRead_of_ok _ hstate, Scene.keyState_loaded]
        | error trouble =>
          rw [afterRead_of_error _ hstate]
          rfl

namespace Scene

theorem keyState_next (s : Scene) (now : Moment) (key : Key) :
    (s.next now).session.keyState key =
      keyAfter (Session.keypadOf (s.files s.session.savePath)) key now (s.session.keyState key) := by
  rw [next_session, Session.keyState_next]
  rfl

/-- The keys that are stuck are those that are stranded. -/
theorem stuck_after {start : Scene} (hstart : start.session.ticker.machine.Savable) {key : Key}
    (hkey : Session.stuck (start.session.keyState key) = false) (history : List Moment) :
    Session.stuck ((start.after history).session.keyState key) = start.stranded key history := by
  induction history with
  | nil => exact hkey
  | cons now earlier ih =>
    -- what is in the file by now is what was saved last
    rw [after, keyState_next, after_savePath, keypadOf_after hstart]
    unfold stranded keyAfter
    cases hevent : now.event with
    | check =>
      have hnone : now.command? = none := by rw [Moment.command?, hevent]
      simp only [hnone, Session.stuck_released, ih]
    | frame dice =>
      have hnone : now.command? = none := by rw [Moment.command?, hevent]
      simp only [hnone, ih]
    | key e =>
      cases now.command? with
      | none => exact ih
      | some c =>
        cases c with
        | stop | save => exact ih
        | load =>
          cases start.savedKeypad earlier with
          | some keypad => simp [Session.stuck]
          | none => exact ih
        | hold other =>
          by_cases hother : key = other
          · simp [hother, Session.stuck]
          · simp [hother, Ne.symm hother, ih]

/-- A key is pending since an event of the keyboard. -/
theorem keyAfter_pending {saved : Option Keypad} {key : Key} {now : Moment}
    {state : Bool × Option Nat} {t : Nat} (h : (keyAfter saved key now state).2 = some t) :
    state.2 = some t ∨ now.IsKey ∧ now.time = t := by
  unfold keyAfter at h
  cases hevent : now.event with
  | check =>
    simp only [hevent, Session.released] at h
    split at h
    · cases h
    · exact .inl h
  | frame dice =>
    have hnone : now.command? = none := by rw [Moment.command?, hevent]
    simp only [hevent, hnone] at h
    exact .inl h
  | key e =>
    simp only [hevent] at h
    split at h
    · cases ‹Event.key e = .check›
    · split at h
      · cases h
      · exact .inl h
    · split at h
      · exact .inr ⟨⟨e, hevent⟩, Option.some.inj h⟩
      · exact .inl h
    · exact .inl h

theorem pending_after {start : Scene} {key : Key} (hstart : (start.session.keyState key).2 = none)
    {history : List Moment} {t : Nat}
    (h : ((start.after history).session.keyState key).2 = some t) :
    ∃ now ∈ history, now.IsKey ∧ now.time = t := by
  induction history with
  | nil =>
    rw [after, hstart] at h
    cases h
  | cons now earlier ih =>
    rw [after, keyState_next] at h
    rcases keyAfter_pending h with hbefore | ⟨hkey, htime⟩
    · obtain ⟨past, hpast, hreported⟩ := ih hbefore
      exact ⟨past, List.mem_cons_of_mem now hpast, hreported⟩
    · exact ⟨now, List.mem_cons_self, hkey, htime⟩

/-- At every time, a key is down without being pending exactly if it came down
    with a state that was loaded, and neither was it pressed since nor was another
    state loaded. These are also the keys that are down after a check that comes
    more than 50 ms after the last event of the keyboard. -/
theorem down_after_check_iff_stranded (ticker : Ticker) (path : String) (files : Files)
    (hmachine : ticker.machine.Reachable) (hkeypad : ticker.machine.keypad = .released)
    (history : List Moment) (key : Key) :
    let start : Scene := ⟨Session.start ticker path, files⟩
    let last := (start.after history).session
    (last.ticker.machine.keypad.down.get key = true ∧ last.pending.get key = none ↔
        start.stranded key history = true) ∧
      ∀ time, (∀ now ∈ history, now.IsKey → now.time + 50_000_000 < time) →
        ((last.releaseDue time).ticker.machine.keypad.down.get key = true ↔
          start.stranded key history = true) := by
  intro start last
  have hstate : start.session.keyState key = (false, none) := by
    have hdown : Keypad.released.down.get key = false := Vector.getElem_replicate key.isLt
    have hpending : (Session.start ticker path).pending.get key = none :=
      Vector.getElem_replicate key.isLt
    rw [Session.keyState, hpending]
    simp only [start, Session.start, hkeypad, hdown]
  have hstuck : Session.stuck (last.keyState key) = start.stranded key history :=
    stuck_after hmachine.savable (by rw [hstate]; rfl) history
  refine ⟨?_, fun time hlate => ?_⟩
  · rw [← hstuck, Session.stuck_keyState]
  · rw [← hstuck, Session.down_releaseDue]
    intro t hpending
    obtain ⟨now, hnow, hkey, rfl⟩ := pending_after (congrArg Prod.snd hstate) hpending
    exact hlate now hnow hkey

/-- A key is pressed, and the state is saved and loaded before its release is due. -/
def quickReload : List Moment := [
  ⟨20_000_000, .key { code := .function 9 }⟩,
  ⟨10_000_000, .key { code := .function 5 }⟩,
  ⟨0, .key { code := .symbol 'q' }⟩]

/-- A ticker whose machine was just switched on. -/
def freshTicker : Ticker := { machine := .start .spill, batch := 11, frameNanos := 16666667 }

theorem stranded_quickReload (path : String) (files : Files) :
    (⟨Session.start freshTicker path, files⟩ : Scene).stranded 4 quickReload = true := rfl

/-- The key is still down when it is checked long after. -/
theorem down_after_quickReload :
    freshTicker.machine.Reachable ∧ freshTicker.machine.keypad = .released ∧
      (∀ now ∈ quickReload, now.IsKey → now.time + 50_000_000 < 200_000_000) ∧
      let start : Scene := ⟨Session.start freshTicker "rom.json", fun _ => .error .notFound⟩
      ((start.after quickReload).session.releaseDue (200_000_000)).ticker.machine.keypad.down.get
        (4 : Key) = true := by
  have hmachine : freshTicker.machine.Reachable := ⟨.spill, ⟨fun _ => 0, 0⟩, [], rfl⟩
  have hlate : ∀ now ∈ quickReload, now.IsKey → now.time + 50_000_000 < 200_000_000 := by
    intro now hnow _
    simp only [quickReload, List.mem_cons, List.not_mem_nil, or_false] at hnow
    rcases hnow with rfl | rfl | rfl <;> decide
  refine ⟨hmachine, rfl, hlate, ?_⟩
  exact ((down_after_check_iff_stranded freshTicker "rom.json" (fun _ => .error .notFound) hmachine
    rfl quickReload 4).2 _ hlate).2 (stranded_quickReload _ _)

end Scene

end Chip8

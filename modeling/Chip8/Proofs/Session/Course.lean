-- SUMMARY: Sessions over time, among files that anybody may change.
import Chip8.Proofs.Session.Files
import Chip8.Proofs.Session.Keys
import Chip8.Session.Keys

/-! # The course of a session

A session is driven by keyboard events, by frames, and by checks of the keys that
wait for their release. Every moment finds the files in some state, and nothing is
said here about how they got there: other programs may have written them, and the
session itself may have failed to. Whatever happens, the session keeps its file,
and the state of its machine can be saved. -/

namespace Chip8

/-- What happens to a session. -/
inductive Event where
  | key (e : KeyEvent)
  | frame (dice : Dice)
  | check

/-- An event and the time at which it happens. -/
structure Moment where
  time : Nat
  event : Event

/-- What a moment asks for. -/
def Moment.command? (now : Moment) : Option Command :=
  match now.event with
  | .key e => e.command?
  | _ => none

namespace Session

variable {σ : Type} (store : File.Store (StateM σ))

/-- The session after one more moment, which finds the files in some state. -/
def next (s : Session) (now : Moment) (files : σ) : Session :=
  match now.event with
  | .key e => ((s.onKey store now.time e).run files).1.1
  | .frame dice => (s.frame dice).session
  | .check => s.releaseDue now.time

/-- The session after a row of moments, each with the files as it finds them. The
    latest of them comes first. -/
def course (start : Session) : List (Moment × σ) → Session
  | [] => start
  | (now, files) :: earlier => (start.course earlier).next store now files

/-- The session after it did what a command asks for. -/
def obey (s : Session) (time : Nat) (files : σ) : Command → Session
  | .stop => s.stop.1
  | .save => (s.afterSave ((s.writeText store).run files).1).1
  | .load => (s.afterRead ((store.read s.savePath).run files).1).1
  | .hold key => s.hold time key

variable {store} {s : Session} {now : Moment} {files : σ}

/-- A keyboard event does what its command asks for. -/
theorem next_of_command {c : Command} (h : now.command? = some c) :
    s.next store now files = s.obey store now.time files c := by
  obtain ⟨time, event⟩ := now
  cases event with
  | key e =>
    have he : e.command? = some c := h
    simp only [next, onKey, he]
    cases c <;> rfl
  | frame | check => cases h

theorem next_of_no_command {time : Nat} {e : KeyEvent} (h : e.command? = none) :
    s.next store ⟨time, .key e⟩ files = s := by
  simp only [next, onKey, h]
  rfl

/-! ## What lasts -/

/-- A property of sessions that commands keep, and so do frames and checks, is kept by
    every moment. -/
theorem next_induction {P : Session → Prop} (hs : P s)
    (hcommand : ∀ c, P (s.obey store now.time files c))
    (hframe : ∀ dice, P (s.frame dice).session)
    (hcheck : P (s.releaseDue now.time)) : P (s.next store now files) := by
  obtain ⟨time, event⟩ := now
  cases event with
  | frame dice => exact hframe dice
  | check => exact hcheck
  | key e =>
    cases hc : e.command? with
    | none =>
      rw [next_of_no_command hc]
      exact hs
    | some c =>
      have hnow : Moment.command? ⟨time, .key e⟩ = some c := hc
      rw [next_of_command hnow]
      exact hcommand c

/-- Saving changes the status line alone. -/
theorem afterSave_eq (s : Session) (result : Except SaveTrouble Unit) :
    ∃ status, (s.afterSave result).1 = { s with status := status } := by
  cases result <;> exact ⟨_, rfl⟩

theorem obey_savePath (time : Nat) (c : Command) :
    (s.obey store time files c).savePath = s.savePath := by
  cases c with
  | stop | hold => rfl
  | save =>
    obtain ⟨status, heq⟩ := s.afterSave_eq ((s.writeText store).run files).1
    rw [obey, heq]
  | load =>
    rw [obey]
    cases hstate : stateOf ((store.read s.savePath).run files).1 with
    | ok state =>
      rw [afterRead_of_ok _ hstate]
      rfl
    | error trouble => rw [afterRead_of_error _ hstate]

theorem next_savePath (s : Session) (now : Moment) (files : σ) :
    (s.next store now files).savePath = s.savePath := by
  refine next_induction (P := (·.savePath = s.savePath)) rfl (obey_savePath now.time)
    (fun dice => ?_) ?_
  · obtain ⟨shown, heq⟩ := s.frame_eq dice
    rw [heq]
    rfl
  · obtain ⟨keypad, pending, heq⟩ := s.releaseDue_eq now.time
    rw [heq]
    rfl

theorem obey_savable (hs : s.ticker.machine.Savable) (time : Nat) (c : Command) :
    (s.obey store time files c).ticker.machine.Savable := by
  cases c with
  | stop => exact hs
  | hold key => exact hs.withKeypad _
  | save =>
    obtain ⟨status, heq⟩ := s.afterSave_eq ((s.writeText store).run files).1
    rw [obey, heq]
    exact hs
  | load =>
    rw [obey]
    cases hstate : stateOf ((store.read s.savePath).run files).1 with
    | ok state =>
      rw [afterRead_of_ok _ hstate]
      have hproper := stateOf_proper hstate
      exact ⟨hproper.calls, hproper.pixels⟩
    | error trouble =>
      rw [afterRead_of_error _ hstate]
      exact hs

theorem next_savable (hs : s.ticker.machine.Savable) (now : Moment) (files : σ) :
    (s.next store now files).ticker.machine.Savable := by
  refine next_induction (P := (·.ticker.machine.Savable)) hs (obey_savable hs now.time)
    (fun dice => ?_) ?_
  · obtain ⟨shown, heq⟩ := s.frame_eq dice
    rw [heq]
    exact Ticker.tick_savable hs dice
  · obtain ⟨keypad, pending, heq⟩ := s.releaseDue_eq now.time
    rw [heq]
    exact hs.withKeypad keypad

theorem course_savePath (start : Session) (history : List (Moment × σ)) :
    (start.course store history).savePath = start.savePath := by
  induction history with
  | nil => rfl
  | cons now earlier ih => exact (next_savePath _ now.1 now.2).trans ih

theorem course_savable {start : Session} (hstart : start.ticker.machine.Savable)
    (history : List (Moment × σ)) : (start.course store history).ticker.machine.Savable := by
  induction history with
  | nil => exact hstart
  | cons now earlier ih => exact next_savable ih now.1 now.2

end Session

end Chip8

-- SUMMARY: Sessions over time, with files that read as what was last written.
import Chip8.Proofs.Session.Course

/-! # Sessions over time

The files of a session are in memory here: reading a file gives what was last put
into it, and nobody but the session puts anything into them. -/

namespace Chip8

/-- What reading each file comes to. -/
abbrev Files := String → Except File.Fault ByteArray

/-- The files with other contents at a path. -/
def Files.put (files : Files) (path : String) (contents : ByteArray) : Files :=
  fun other => if other = path then .ok contents else files other

/-- Files in memory. Writing and making directories always succeed. -/
def Files.store : File.Store (StateM Files) where
  read path := do return (← get) path
  write path contents := do
    modify (·.put path contents)
    return .ok ()
  makeDirectories _ := return .ok ()

/-- A session and the files around it. -/
structure Scene where
  session : Session
  files : Files

namespace Scene

/-- The scene after one more moment. -/
def next (s : Scene) (now : Moment) : Scene :=
  match now.event with
  | .key e =>
    let turn := (s.session.onKey Files.store now.time e).run s.files
    ⟨turn.1.1, turn.2⟩
  | .frame dice => { s with session := (s.session.frame dice).session }
  | .check => { s with session := s.session.releaseDue now.time }

/-- The scene after a row of moments, the latest of which comes first. -/
def after (start : Scene) : List Moment → Scene
  | [] => start
  | now :: earlier => (start.after earlier).next now

/-- Does what a command asks for. -/
def obey (s : Scene) (time : Nat) : Command → Scene
  | .stop => { s with session := s.session.stop.1 }
  | .save =>
    { session := (s.session.afterSave (.ok ())).1
      files := s.files.put s.session.savePath s.session.saveText.toUTF8 }
  | .load => { s with session := (s.session.afterRead (s.files s.session.savePath)).1 }
  | .hold key => { s with session := s.session.hold time key }

/-- A keyboard event does what its command asks for. -/
theorem next_key (s : Scene) (time : Nat) (e : KeyEvent) :
    s.next ⟨time, .key e⟩ = (e.command?.map (s.obey time)).getD s := by
  simp only [next, Session.onKey]
  cases e.command? with
  | none => rfl
  | some command =>
    cases command <;> rfl

/-! ## What lasts -/

theorem next_session (s : Scene) (now : Moment) :
    (s.next now).session = s.session.next Files.store now s.files := by
  obtain ⟨time, event⟩ := now
  cases event <;> simp only [next, Session.next]

theorem next_savePath (s : Scene) (now : Moment) :
    (s.next now).session.savePath = s.session.savePath := by
  rw [next_session, Session.next_savePath]

theorem next_savable {s : Scene} (hs : s.session.ticker.machine.Savable) (now : Moment) :
    (s.next now).session.ticker.machine.Savable := by
  rw [next_session]
  exact Session.next_savable hs now s.files

theorem after_savePath (start : Scene) (history : List Moment) :
    (start.after history).session.savePath = start.session.savePath := by
  induction history with
  | nil => rfl
  | cons now earlier ih => exact (next_savePath _ now).trans ih

theorem after_savable {start : Scene} (hstart : start.session.ticker.machine.Savable)
    (history : List Moment) : (start.after history).session.ticker.machine.Savable := by
  induction history with
  | nil => exact hstart
  | cons now earlier ih => exact next_savable ih now

end Scene

end Chip8

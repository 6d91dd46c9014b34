-- SUMMARY: A state that was saved is loaded again, and a load that fails changes the status line alone.
import Chip8.Proofs.Session.HeldKeys

/-! # Loading what was saved

F9 takes over the state in the file as a whole or not at all. When the file still
reads as the last F5 left it, that state is the one which was saved, whatever
happened in between. When there is no such state in the file, for whatever reason,
the session goes on as it was and says why. -/

namespace Chip8

variable {σ : Type}

/-- Reading a file gives what was just written to it with success. -/
structure File.Store.Keeps (store : File.Store (StateM σ)) : Prop where
  read_of_write {path : String} {contents : ByteArray} {files after : σ}
      (h : (store.write path contents).run files = (.ok (), after)) :
    ((store.read path).run after).1 = .ok contents

theorem Files.store_keeps : Files.store.Keeps where
  read_of_write := by
    rintro path contents files after ⟨⟩
    exact if_pos rfl

namespace Session

variable {store : File.Store (StateM σ)} {s : Session} {state : SaveState} {files : σ}

/-! ## Saving -/

/-- An operation finds the files as the one before it left them. -/
theorem run_bind_files {α β : Type} (first : StateM σ α) (second : α → StateM σ β) (files : σ) :
    (first >>= second).run files = (second (first.run files).1).run (first.run files).2 := rfl

/-- A session that saves with success writes its text last of all. -/
theorem write_of_writeText {after : σ} (h : (s.writeText store).run files = (.ok (), after)) :
    ∃ between, (store.write s.savePath s.saveText.toUTF8).run between = (.ok (), after) := by
  rw [writeText, run_bind_files] at h
  split at h
  · cases h
  · rw [run_bind_files] at h
    split at h
    · cases h
    · next hwritten =>
      cases h
      exact ⟨_, Prod.ext hwritten rfl⟩

/-- An event that saves leaves the files as writing the text does. -/
theorem files_of_save {e : KeyEvent} (he : e.command? = some .save) (time : Nat) :
    ((s.onKey store time e).run files).2 = ((s.writeText store).run files).2 := by
  simp only [onKey, he]
  rfl

/-- After a session saved with success, its file holds the state of its machine. -/
theorem stateOf_of_save (hstore : store.Keeps) (hs : s.ticker.machine.Savable) {e : KeyEvent}
    (he : e.command? = some .save) (time : Nat)
    (hok : ((s.writeText store).run files).1 = .ok ()) :
    stateOf ((store.read s.savePath).run ((s.onKey store time e).run files).2).1 =
      .ok s.ticker.machine.saveState := by
  obtain ⟨between, hwrite⟩ := write_of_writeText (Prod.ext hok (files_of_save he time).symm)
  rw [hstore.read_of_write hwrite, s.stateOf_saveText hs.proper]

/-! ## Loading -/

/-- A session has taken over a state: its machine runs in that state, its display is
    shown, no key waits for its release, and all else is as it was. -/
structure TakesOver (s : Session) (state : SaveState) (after : Session) : Prop where
  state : after.ticker.machine.saveState = state
  running : after.ticker.machine.mode = .running
  shown : after.shown = after.ticker.machine.display
  pending : ∀ key, after.pending.get key = none
  edge : after.ticker.machine.edge = s.ticker.machine.edge
  stopped : after.ticker.stopped = s.ticker.stopped
  batch : after.ticker.batch = s.ticker.batch
  frameNanos : after.ticker.frameNanos = s.ticker.frameNanos
  savePath : after.savePath = s.savePath
  status : after.status = s!"Loaded {s.savePath}"

theorem takesOver_loaded (s : Session) (state : SaveState) : s.TakesOver state (s.loaded state) where
  state := rfl
  running := rfl
  shown := rfl
  pending key := Vector.getElem_replicate key.isLt
  edge := rfl
  stopped := rfl
  batch := rfl
  frameNanos := rfl
  savePath := rfl
  status := rfl

theorem takesOver_of_load {now : Moment} (hnow : now.command? = some .load)
    (h : stateOf ((store.read s.savePath).run files).1 = .ok state) :
    s.TakesOver state (s.next store now files) := by
  rw [next_of_command hnow, obey, afterRead_of_ok _ h]
  exact s.takesOver_loaded state

theorem next_of_load_error {now : Moment} (hnow : now.command? = some .load) {trouble : LoadTrouble}
    (h : stateOf ((store.read s.savePath).run files).1 = .error trouble) :
    s.next store now files = { s with status := trouble.message } := by
  rw [next_of_command hnow, obey, afterRead_of_error _ h]

/-- A session that finds its file as it left it when it saved with success takes over
    the state of its machine as it was then, whatever the session and others did in
    between. Whatever a session finds in its file, it takes over the state in it, and
    if there is none, it changes nothing but the status line, which says why. -/
theorem load_takes_over_saved (store : File.Store (StateM σ)) (load : KeyEvent)
    (hload : load.code = .function 9 ∧ load.action = .press) :
    (store.Keeps → ∀ (ticker : Ticker) (path : String), ticker.machine.Reachable →
      ∀ (past future : List (Moment × σ)) (time time' : Nat) (files held : σ) (save : KeyEvent),
        save.code = .function 5 → save.action = .press →
        let before := (start ticker path).course store past
        let left := ((before.onKey store time save).run files).2
        let last := (before.next store ⟨time, .key save⟩ files).course store future
        ((before.writeText store).run files).1 = .ok () →
        ((store.read path).run held).1 = ((store.read path).run left).1 →
        last.TakesOver before.ticker.machine.saveState
          (last.next store ⟨time', .key load⟩ held)) ∧
      ∀ (s : Session) (time : Nat) (files : σ),
        let contents := ((store.read s.savePath).run files).1
        let after := s.next store ⟨time, .key load⟩ files
        (∀ (text : String) (state : SaveState), contents = .ok text.toUTF8 →
          SaveState.ofJson text = .ok state → s.TakesOver state after) ∧
          ((¬∃ (text : String) (state : SaveState), contents = .ok text.toUTF8 ∧
            SaveState.ofJson text = .ok state) →
            ∃ trouble, stateOf contents = .error trouble ∧
              after = { s with status := trouble.message }) := by
  have hcommand : load.command? = some .load := by
    simp [KeyEvent.command?, hload]
  have hnow : ∀ time, Moment.command? ⟨time, .key load⟩ = some .load := fun _ => hcommand
  refine ⟨?_, fun s time files => ⟨?_, ?_⟩⟩
  · intro hstore ticker path hmachine past future time time' files held save hcode haction
      before left last hok hheld
    have hsave : save.command? = some .save := by
      simp [KeyEvent.command?, hcode, haction]
    have hsavable : before.ticker.machine.Savable := course_savable hmachine.savable past
    have hpath : before.savePath = path := course_savePath _ past
    have hlast : last.savePath = path :=
      (course_savePath _ future).trans ((next_savePath before _ files).trans hpath)
    have hleft := stateOf_of_save hstore hsavable hsave time hok
    refine takesOver_of_load (hnow _) ?_
    rw [hlast, hheld, ← hpath]
    exact hleft
  · intro text state htext hread
    exact takesOver_of_load (hnow _) (stateOf_eq_ok_iff.2 ⟨text, htext, hread⟩)
  · intro hnone
    cases hstate : stateOf ((store.read s.savePath).run files).1 with
    | ok state =>
      obtain ⟨text, htext, hread⟩ := stateOf_eq_ok_iff.1 hstate
      exact absurd ⟨text, state, htext, hread⟩ hnone
    | error trouble => exact ⟨trouble, rfl, next_of_load_error (hnow time) hstate⟩

/-- Without a file nothing is loaded. From the file as it was saved the state comes back,
    though another key was pressed since. -/
theorem reload_after_keys :
    let files : Files := fun _ => .error .notFound
    let save : KeyEvent := { code := .function 5 }
    let load : KeyEvent := { code := .function 9 }
    let first := start Scene.freshTicker "rom.json"
    let before := first.course Files.store [(⟨0, .key { code := .symbol 'q' }⟩, files)]
    let left := ((before.onKey Files.store 10_000_000 save).run files).2
    let last := (before.next Files.store ⟨10_000_000, .key save⟩ files).course Files.store
      [(⟨20_000_000, .key { code := .symbol 'v' }⟩, left)]
    let after := last.next Files.store ⟨30_000_000, .key load⟩ left
    (load.code = .function 9 ∧ load.action = .press) ∧ Files.store.Keeps ∧
      Scene.freshTicker.machine.Reachable ∧ save.code = .function 5 ∧ save.action = .press ∧
      ((before.writeText Files.store).run files).1 = .ok () ∧
      last.TakesOver before.ticker.machine.saveState after ∧
      first.next Files.store ⟨0, .key load⟩ files =
        { first with status := (LoadTrouble.notRead .notFound).message } := by
  intro files save load first before left last after
  have hload : load.code = .function 9 ∧ load.action = .press := ⟨rfl, rfl⟩
  have hmachine : Scene.freshTicker.machine.Reachable := ⟨.spill, ⟨fun _ => 0, 0⟩, [], rfl⟩
  have hok : ((before.writeText Files.store).run files).1 = .ok () := rfl
  obtain ⟨hsaved, hcontents⟩ := load_takes_over_saved Files.store load hload
  refine ⟨hload, Files.store_keeps, hmachine, rfl, rfl, hok, ?_, ?_⟩
  · exact hsaved Files.store_keeps _ _ hmachine _ _ _ _ files left save rfl rfl hok rfl
  · obtain ⟨trouble, htrouble, hafter⟩ := (hcontents first 0 files).2 (by rintro ⟨_, _, ⟨⟩, -⟩)
    cases htrouble
    exact hafter

end Session

end Chip8

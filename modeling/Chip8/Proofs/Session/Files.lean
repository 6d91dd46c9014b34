-- SUMMARY: What a session loads: the state that was saved, or nothing at all.
import Chip8.Proofs.SaveState
import Chip8.Session.Files

/-! # The file of a session

A session that loads takes over the state in its file as it was saved. When there
is no such state, nothing changes but the status line. -/

namespace Chip8

/-- Text is read back from its bytes. -/
theorem fromUTF8?_toUTF8 (text : String) : String.fromUTF8? text.toUTF8 = some text := by
  have hvalid : text.toUTF8.IsValidUTF8 := text.isValidUTF8
  rw [String.fromUTF8?, dif_pos hvalid]
  rfl

/-- What is read as a state is proper. -/
theorem SaveState.proper_of_ofJson {text : String} {state : SaveState}
    (h : ofJson text = .ok state) : state.Proper := by
  unfold ofJson at h
  split at h
  · cases h
  · split at h
    · cases h
    · next hfault =>
      cases h
      exact (fault?_eq_none_iff _).1 hfault

namespace Session

variable {contents : Except File.Fault ByteArray} {state : SaveState} {trouble : LoadTrouble}

/-- Bytes that are a text are the bytes of that text. -/
theorem toUTF8_of_fromUTF8? {bytes : ByteArray} {text : String}
    (h : String.fromUTF8? bytes = some text) : bytes = text.toUTF8 := by
  unfold String.fromUTF8? at h
  split at h
  · cases h
    rfl
  · cases h

/-- The contents of a file hold a state if they are a text that is read as one. -/
theorem stateOf_eq_ok_iff :
    stateOf contents = .ok state ↔
      ∃ text : String, contents = .ok text.toUTF8 ∧ SaveState.ofJson text = .ok state := by
  constructor
  · intro h
    unfold stateOf at h
    split at h
    · cases h
    · split at h
      · cases h
      next text htext =>
        split at h
        · cases h
        next hread =>
          cases h
          exact ⟨text, congrArg Except.ok (toUTF8_of_fromUTF8? htext), hread⟩
  · rintro ⟨text, rfl, hread⟩
    simp only [stateOf, fromUTF8?_toUTF8, hread]

theorem stateOf_proper (h : stateOf contents = .ok state) : state.Proper := by
  obtain ⟨text, -, hread⟩ := stateOf_eq_ok_iff.1 h
  exact SaveState.proper_of_ofJson hread

/-- The state that a session saved is found in what it wrote. -/
theorem stateOf_saveText (s : Session) (hs : s.ticker.machine.saveState.Proper) :
    stateOf (.ok s.saveText.toUTF8) = .ok s.ticker.machine.saveState :=
  stateOf_eq_ok_iff.2 ⟨s.saveText, rfl, SaveState.ofJson_toJson hs⟩

/-- The session after a state was taken over. -/
def loaded (s : Session) (state : SaveState) : Session :=
  { s.withMachine (s.ticker.machine.withState state) with
    shown := state.display
    pending := Vector.replicate 16 none
    status := s!"Loaded {s.savePath}" }

theorem afterRead_of_ok (s : Session) (h : stateOf contents = .ok state) :
    (s.afterRead contents).1 = s.loaded state := by
  simp only [afterRead, h, Except.bind, restore,
    s.ticker.machine.restore_of_proper (stateOf_proper h)]
  rfl

theorem afterRead_of_error (s : Session) (h : stateOf contents = .error trouble) :
    (s.afterRead contents).1 = { s with status := trouble.message } := by
  simp only [afterRead, h, Except.bind]

end Session

end Chip8

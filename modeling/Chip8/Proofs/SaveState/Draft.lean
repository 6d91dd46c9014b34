-- SUMMARY: A saved state is read from numbers of any size exactly when all of them are in range.
import Chip8.Proofs.Json.Draft
import Chip8.Proofs.Savable

/-! # Drafts of a saved state

A text of the right form can hold any whole numbers and lists of any length. It is
read exactly when every list has its length and every number is in the range of its
place, and then what is read are those numbers. Whatever else it holds, it is refused
as a bad state. -/

namespace Chip8

open Json

/-- The nine values of a saved state, of any size. -/
structure Draft where
  memory : List Int
  registers : List Int
  index : Int
  pc : Int
  stack : List Int
  delay : Int
  sound : Int
  display : List Int
  keypad : List Bool

namespace Draft

/-- The values as an object without blanks. -/
def text (d : Draft) : String :=
  "\x7b" ++ String.intercalate "," [
    entry "memory" (bracketed (d.memory.map toString)),
    entry "v" (bracketed (d.registers.map toString)),
    entry "i" (toString d.index),
    entry "pc" (toString d.pc),
    entry "stack" (bracketed (d.stack.map toString)),
    entry "delay_timer" (toString d.delay),
    entry "sound_timer" (toString d.sound),
    entry "framebuffer" (bracketed (d.display.map toString)),
    entry "keys" (bracketed (d.keypad.map toString))] ++ "\x7d"

/-- Every list has its length and every number is in its range. -/
structure Fits (d : Draft) : Prop where
  memory : d.memory.length = 4096 ∧ ∀ n ∈ d.memory, 0 ≤ n ∧ n ≤ 255
  registers : d.registers.length = 16 ∧ ∀ n ∈ d.registers, 0 ≤ n ∧ n ≤ 255
  index : 0 ≤ d.index ∧ d.index ≤ 65535
  pc : 0 ≤ d.pc ∧ d.pc ≤ 65535
  stack : d.stack.length ≤ 16 ∧ ∀ n ∈ d.stack, 0 ≤ n ∧ n ≤ 65535
  delay : 0 ≤ d.delay ∧ d.delay ≤ 255
  sound : 0 ≤ d.sound ∧ d.sound ≤ 255
  display : d.display.length = 2048 ∧ ∀ n ∈ d.display, n = 0 ∨ n = 255
  keypad : d.keypad.length = 16

/-! ## Drafts as records -/

/-- The values of a draft, field by field. -/
def toRecord (d : Draft) : SaveState.record.Draft
  | .memory => d.memory
  | .registers => d.registers
  | .index => d.index
  | .pc => d.pc
  | .stack => d.stack
  | .delay => d.delay
  | .sound => d.sound
  | .display => d.display
  | .keypad => d.keypad

theorem toRecord_inj {d d' : Draft} (h : d.toRecord = d'.toRecord) : d = d' := by
  cases d
  cases d'
  rw [Draft.mk.injEq]
  exact ⟨congrFun h .memory, congrFun h .registers, congrFun h .index, congrFun h .pc,
    congrFun h .stack, congrFun h .delay, congrFun h .sound, congrFun h .display,
    congrFun h .keypad⟩

theorem text_eq (d : Draft) : d.text = SaveState.record.print d.toRecord := by
  rfl

end Draft

namespace SaveState

/-- The values of a state. -/
def draft (s : SaveState) : Draft where
  memory := s.memory.cells.toList.map fun b => (b.toNat : Int)
  registers := s.registers.toList.map fun b => (b.toNat : Int)
  index := s.index.toNat
  pc := s.pc.toNat
  stack := s.stack.map fun w => (w.toNat : Int)
  delay := s.delay.toNat
  sound := s.sound.toNat
  display := s.display.pixels.toList.map fun b => (b.toNat : Int)
  keypad := s.keypad.down.toList

theorem toRecord_draft (s : SaveState) : s.draft.toRecord = record.draft s.toRow := by
  funext f
  cases f with
  | keypad => exact (List.map_id _).symm
  | _ => rfl

/-- A state is written as its values. -/
theorem text_draft (s : SaveState) : s.draft.text = s.toJson := by
  rw [Draft.text_eq, toRecord_draft, record.print_draft, toJson]

/-- Whether a state is proper can be told from its values. -/
theorem proper_iff_draft (s : SaveState) :
    s.Proper ↔ s.draft.stack.length ≤ 16 ∧ ∀ n ∈ s.draft.display, n = 0 ∨ n = 255 := by
  have hpixel : ∀ b : UInt8, b = 0 ∨ b = lit ↔ (b.toNat : Int) = 0 ∨ (b.toNat : Int) = 255 := by
    intro b
    rw [← UInt8.toNat_inj, ← UInt8.toNat_inj, show lit.toNat = 255 from rfl,
      show (0 : UInt8).toNat = 0 from rfl]
    omega
  have hpixels : s.display.Crisp ↔ ∀ n ∈ s.draft.display, n = 0 ∨ n = 255 := by
    simp only [crisp_iff_mem, draft, List.forall_mem_map, hpixel]
  rw [← hpixels, draft, List.length_map]
  exact ⟨fun h => ⟨h.calls, h.pixels⟩, fun h => ⟨h.1, h.2⟩⟩

end SaveState

/-- The drafts that fit are those of proper states. -/
theorem Draft.fits_iff (d : Draft) : d.Fits ↔ ∃ s : SaveState, s.Proper ∧ s.draft = d := by
  constructor
  · intro h
    have hfields : ∀ f, (SaveState.record.shape f).Fits (d.toRecord f) := by
      intro f
      cases f with
      | memory => exact h.memory
      | registers => exact h.registers
      | index => exact h.index
      | pc => exact h.pc
      | stack => exact h.stack.2
      | delay => exact h.delay
      | sound => exact h.sound
      | display =>
        refine ⟨h.display.1, fun n hn => ?_⟩
        rcases h.display.2 n hn with rfl | rfl
        · exact ⟨Int.le_refl 0, by decide⟩
        · exact ⟨by decide, Int.le_refl 255⟩
      | keypad => exact ⟨h.keypad, fun _ _ => trivial⟩
    obtain ⟨row, hrow⟩ := Record.exists_draft_iff.2 hfields
    have hdraft : (SaveState.ofRow row).draft = d := by
      apply toRecord_inj
      rw [SaveState.toRecord_draft, SaveState.toRow_ofRow, hrow]
    refine ⟨SaveState.ofRow row, ?_, hdraft⟩
    rw [SaveState.proper_iff_draft, hdraft]
    exact ⟨h.stack.1, h.display.2⟩
  · rintro ⟨s, hs, rfl⟩
    obtain ⟨hcalls, hpixels⟩ := s.proper_iff_draft.1 hs
    have hfields : ∀ f, (SaveState.record.shape f).Fits (s.draft.toRecord f) := by
      rw [SaveState.toRecord_draft]
      exact Record.exists_draft_iff.1 ⟨s.toRow, rfl⟩
    exact {
      memory := hfields .memory
      registers := hfields .registers
      index := hfields .index
      pc := hfields .pc
      stack := ⟨hcalls, hfields .stack⟩
      delay := hfields .delay
      sound := hfields .sound
      display := ⟨(hfields .display).1, hpixels⟩
      keypad := (hfields .keypad).1 }

namespace SaveState

/-- A state is read from the text of its own values alone, and only if it is proper. -/
theorem ofJson_text_iff {d : Draft} {s : SaveState} :
    ofJson d.text = .ok s ↔ s.Proper ∧ s.draft = d := by
  rw [ofJson_eq_ok_iff, d.text_eq, record.parse_print_iff record_labelled, ← toRecord_draft]
  constructor
  · rintro ⟨hrow, hs⟩
    exact ⟨hs, Draft.toRecord_inj hrow⟩
  · rintro ⟨hs, rfl⟩
    exact ⟨rfl, hs⟩

/-- Values that fit are read as they are and written again as the same text. All others are
    refused. -/
theorem ofJson_text (d : Draft) :
    (d.Fits → ∃ s, ofJson d.text = .ok s ∧ s.draft = d ∧ s.toJson = d.text) ∧
    (¬d.Fits → ∃ cause, ofJson d.text = .error (.badSave cause)) := by
  constructor
  · intro hd
    obtain ⟨s, hs, rfl⟩ := d.fits_iff.1 hd
    exact ⟨s, ofJson_text_iff.2 ⟨hs, rfl⟩, rfl, s.text_draft.symm⟩
  · intro hd
    cases hread : ofJson d.text with
    | error fault =>
      obtain ⟨cause, rfl⟩ := badSave_of_ofJson hread
      exact ⟨cause, rfl⟩
    | ok s => exact absurd (d.fits_iff.2 ⟨s, ofJson_text_iff.1 hread⟩) hd

/-- The values of a new machine are read; with the program counter one too large for a word,
    which would wrap around to zero, they are refused. -/
theorem ofJson_text_start :
    (∃ s, ofJson (Machine.start .spill).saveState.draft.text = .ok s ∧
      s.draft = (Machine.start .spill).saveState.draft ∧
      s.toJson = (Machine.start .spill).saveState.draft.text) ∧
    ∃ cause, ofJson { (Machine.start .spill).saveState.draft with pc := 65536 }.text =
      .error (.badSave cause) := by
  have hproper := (Machine.savable_start .spill).proper
  constructor
  · exact (ofJson_text _).1 (Draft.fits_iff _ |>.2 ⟨_, hproper, rfl⟩)
  · exact (ofJson_text _).2 fun h => absurd h.pc.2 (by decide)

end SaveState

end Chip8

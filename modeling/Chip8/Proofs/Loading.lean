-- SUMMARY: A program that is loaded starts on a machine without a past, and one that does not fit changes nothing.
import Chip8.Proofs.Keypad
import Chip8.Proofs.Machine.Faults
import Chip8.Proofs.Savable

/-! # Loading

A program that fits is loaded over all that a machine was: what the machine is afterwards
is told by the program and the treatment of the edge alone. A program that does not fit
leaves the machine as it is, and so does a file that cannot be read. -/

namespace Chip8

namespace Memory

variable {m after : Memory} {a : Nat} {program : List UInt8}

theorem read_fresh (ha : a < memorySize) :
    fresh.read a = .ok (if h : a < Glyphs.size then Glyphs.bytes[a] else 0) :=
  (read_of_lt ha).trans (congrArg Except.ok (Vector.getElem_ofFn ha))

theorem read_fresh_of_lt (h : a < Glyphs.size) : fresh.read a = .ok Glyphs.bytes[a] := by
  rw [read_fresh (Nat.lt_trans h (by decide)), dif_pos h]

theorem read_fresh_of_le (h : Glyphs.size ≤ a) (ha : a < memorySize) : fresh.read a = .ok 0 := by
  rw [read_fresh ha, dif_neg (Nat.not_lt.2 h)]

/-- Memory holds the glyphs, a program, and zeros everywhere else. -/
structure Carries (m : Memory) (program : List UInt8) : Prop where
  glyphs : ∀ (a : Nat) (h : a < 80), m.read a = .ok Glyphs.bytes[a]
  below : ∀ a, 80 ≤ a → a < 0x200 → m.read a = .ok 0
  code : ∀ (k : Nat) (h : k < program.length), m.read (0x200 + k) = .ok program[k]
  above : ∀ a, 0x200 + program.length ≤ a → a < 4096 → m.read a = .ok 0

/-- A program that is loaded lies in fresh memory. -/
theorem carries_load (h : program.length ≤ programLimit) (hload : fresh.load program = .ok after) :
    after.Carries program := by
  rw [load_of_le h] at hload
  refine ⟨fun a ha => ?_, fun a hglyphs ha => ?_, fun k hk => ?_, fun a hcode ha => ?_⟩
  · have hbelow : a < programStart := Nat.lt_trans ha (by decide)
    exact (read_of_writeBytes hload (.inl hbelow)).trans (read_fresh_of_lt ha)
  · have hinside : a < memorySize := Nat.lt_trans ha (by decide)
    exact (read_of_writeBytes hload (.inl ha)).trans (read_fresh_of_le hglyphs hinside)
  · exact read_of_writeBytes_inside hload (List.getElem?_eq_getElem hk)
  · have hglyphs : Glyphs.size ≤ a :=
      Nat.le_trans (Nat.le_trans (by decide) (Nat.le_add_right 0x200 program.length)) hcode
    exact (read_of_writeBytes hload (.inr hcode)).trans (read_fresh_of_le hglyphs ha)

/-- What memory holds is told for every address. -/
theorem Carries.unique (h : m.Carries program) (h' : after.Carries program) : m = after := by
  refine eq_of_read_eq fun a => ?_
  rcases Nat.lt_or_ge a 80 with hglyphs | hglyphs
  · rw [h.glyphs a hglyphs, h'.glyphs a hglyphs]
  rcases Nat.lt_or_ge a 0x200 with hbelow | hbelow
  · rw [h.below a hglyphs hbelow, h'.below a hglyphs hbelow]
  rcases Nat.lt_or_ge a (0x200 + program.length) with hcode | hcode
  · obtain ⟨k, rfl⟩ := Nat.exists_eq_add_of_le hbelow
    have hk : k < program.length := Nat.lt_of_add_lt_add_left hcode
    rw [h.code k hk, h'.code k hk]
  rcases Nat.lt_or_ge a 4096 with habove | habove
  · rw [h.above a hcode habove, h'.above a hcode habove]
  · rw [read_of_le habove, read_of_le habove]

end Memory

namespace Machine

variable {m other : Machine} {edge : SpriteEdge} {program : List UInt8}

/-- A machine is in front of the first word of a program, and nothing has happened to it. -/
structure Begins (m : Machine) (program : List UInt8) (edge : SpriteEdge) : Prop where
  memory : m.memory.Carries program
  display : ∀ p : Fin displaySize, m.display.pixels.get p = 0
  pc : m.pc = 0x200
  index : m.index = 0
  registers : ∀ k, m.register k = 0
  stack : m.stack = []
  delay : m.delay = 0
  sound : m.sound = 0
  keypad : m.keypad.AllUp
  mode : m.mode = .running
  edge : m.edge = edge

/-- No part of a machine that begins is left open. -/
theorem Begins.unique (h : m.Begins program edge) (h' : other.Begins program edge) : m = other := by
  have hmemory : m.memory = other.memory := h.memory.unique h'.memory
  have hdisplay : m.display = other.display :=
    congrArg Display.mk (Vector.ext fun p hp => (h.display ⟨p, hp⟩).trans (h'.display ⟨p, hp⟩).symm)
  have hregisters : m.registers = other.registers :=
    Vector.ext fun k hk => (h.registers ⟨k, hk⟩).trans (h'.registers ⟨k, hk⟩).symm
  have hkeypad : m.keypad = other.keypad :=
    congrArg Keypad.mk (Vector.ext fun k hk => (h.keypad ⟨k, hk⟩).trans (h'.keypad ⟨k, hk⟩).symm)
  obtain ⟨-, -, hpc, hindex, -, hstack, hdelay, hsound, -, hmode, hedge⟩ := h
  obtain ⟨-, -, hpc', hindex', -, hstack', hdelay', hsound', -, hmode', hedge'⟩ := h'
  cases m
  cases other
  simp_all only

/-- A program that fits starts on a machine that begins with it. -/
theorem load_of_fits (m : Machine) (h : program.length ≤ programLimit) :
    ∃ loaded, m.load program =
      ⟨.ok (), loaded, [.resetting, .programLoaded program.length]⟩ ∧
      loaded.Begins program m.edge := by
  obtain ⟨memory, hload⟩ : ∃ memory, Memory.fresh.load program = .ok memory :=
    ⟨_, if_neg (Nat.not_lt.2 h)⟩
  refine ⟨{ m.reset with memory := memory }, by simp only [load, hload], ?_⟩
  exact {
    memory := Memory.carries_load h hload
    display := fun p => Vector.getElem_replicate p.isLt
    pc := rfl
    index := rfl
    registers := fun k => Vector.getElem_replicate k.isLt
    stack := rfl
    delay := rfl
    sound := rfl
    keypad := fun key => Vector.getElem_replicate key.isLt
    mode := rfl
    edge := (withMemory_edge m.reset memory).trans (start_edge m.edge) }

/-- A program that does not fit changes nothing. -/
theorem load_of_too_large (m : Machine) (h : programLimit < program.length) :
    m.load program = ⟨.error (.programTooLarge program.length), m, []⟩ := by
  rw [load, Memory.load_of_lt h]

/-- A program that is too large is refused by its size, and the machine stays as it is. Any
    other program begins, whatever the machine was before, so machines that treat the edge
    alike become the same one. Loading it again makes no difference. A file is loaded as
    its bytes are, and if it cannot be read, the machine stays as it is. -/
theorem load_erases_or_keeps (m : Machine) (program : List UInt8) :
    (3584 < program.length →
        (m.load program).result = .error (.programTooLarge program.length) ∧
          (m.load program).machine = m) ∧
      (program.length ≤ 3584 →
        (m.load program).result = .ok () ∧ (m.load program).machine.Begins program m.edge ∧
          ∀ other : Machine, other.edge = m.edge →
            (other.load program).machine = (m.load program).machine) ∧
      (m.load program).machine.load program = m.load program ∧
      ∀ path,
        (∀ bytes, m.loadFile path (.ok bytes) = m.load bytes.toList) ∧
        ∀ cause,
          (m.loadFile path (.error cause)).result = .error (.programUnreadable path cause) ∧
            (m.loadFile path (.error cause)).machine = m := by
  refine ⟨fun h => ?_, fun h => ?_, ?_, fun path => ⟨fun _ => rfl, fun _ => ⟨rfl, rfl⟩⟩⟩
  · rw [m.load_of_too_large h]
    exact ⟨rfl, rfl⟩
  · obtain ⟨loaded, hload, hbegins⟩ := m.load_of_fits h
    rw [hload]
    refine ⟨rfl, hbegins, fun other hedge => ?_⟩
    obtain ⟨loaded', hload', hbegins'⟩ := other.load_of_fits h
    rw [hedge] at hbegins'
    rw [hload']
    exact hbegins'.unique hbegins
  · rcases Nat.lt_or_ge programLimit program.length with h | h
    · rw [m.load_of_too_large h, m.load_of_too_large h]
    · obtain ⟨loaded, hload, hbegins⟩ := m.load_of_fits h
      obtain ⟨again, hagain, hbegins'⟩ := loaded.load_of_fits h
      rw [hbegins.edge] at hbegins'
      rw [hload, hagain, hbegins'.unique hbegins]

/-- In the deepest of its calls and with its glyphs overwritten, a machine refuses a program
    of one byte too many. The longest program takes the last byte of memory, and the glyphs
    are back. -/
theorem load_deepest :
    3584 < (List.replicate 3585 (0xEE : UInt8)).length ∧
      (deepest.load (List.replicate 3585 0xEE)).result = .error (.programTooLarge 3585) ∧
      (deepest.load (List.replicate 3585 0xEE)).machine = deepest ∧
      (List.replicate 3584 (0xEE : UInt8)).length ≤ 3584 ∧
      let loaded := (deepest.load (List.replicate 3584 0xEE)).machine
      loaded.memory.read 0xFFF = .ok 0xEE ∧ loaded.memory.read 0 = .ok 0xF0 ∧ loaded.stack = [] ∧
        loaded = ((start .spill).load (List.replicate 3584 0xEE)).machine := by
  have hlong : 3584 < (List.replicate 3585 (0xEE : UInt8)).length := by
    rw [List.length_replicate]
    decide
  have hfits : (List.replicate 3584 (0xEE : UInt8)).length ≤ 3584 :=
    Nat.le_of_eq List.length_replicate
  obtain ⟨hrefused, -⟩ := load_erases_or_keeps deepest (List.replicate 3585 0xEE)
  obtain ⟨hresult, hkept⟩ := hrefused hlong
  obtain ⟨-, hloaded, -⟩ := load_erases_or_keeps deepest (List.replicate 3584 0xEE)
  obtain ⟨-, hbegins, hsame⟩ := hloaded hfits
  rw [List.length_replicate] at hresult
  refine ⟨hlong, hresult, hkept, hfits, ?_, hbegins.memory.glyphs 0 (by decide), hbegins.stack,
    (hsame (start .spill) rfl).symm⟩
  have hlast : 0xDFF < (List.replicate 3584 (0xEE : UInt8)).length := by
    rw [List.length_replicate]
    decide
  exact (hbegins.memory.code 0xDFF hlast).trans (congrArg Except.ok (List.getElem_replicate _))

end Machine

end Chip8

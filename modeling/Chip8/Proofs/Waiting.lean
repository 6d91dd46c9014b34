-- SUMMARY: A machine that waits stands still until a step finds a key down, and takes the lowest.
import Chip8.Proofs.Batch
import Chip8.Proofs.Frames
import Chip8.Proofs.Inputs
import Chip8.Proofs.Instruction
import Chip8.Proofs.Keypad
import Chip8.Proofs.Resume

/-! # Waiting for a key

A machine that waits stands on the word that made it wait. Each of its steps looks
for a key and does nothing else, so what happens to the keys between two steps is
lost on it. The first step that finds a key down takes the lowest one and goes on
behind the word. -/

namespace Chip8

namespace Machine

variable {m : Machine} {x : Register} {key : Key}

/-! ## The word that waits -/

/-- A parked machine that waits is in front of the two bytes that wait for its register. -/
theorem Parked.bytes (hm : m.Parked) (hmode : m.mode = .awaiting x) :
    m.pc.toNat ≤ 0xFFE ∧ m.memory.read m.pc.toNat = .ok (0xF0 + x.toByte) ∧
      m.memory.read (m.pc.toNat + 1) = .ok 0x0A := by
  obtain ⟨word, hword, hi⟩ := hm x hmode
  obtain ⟨high, low, hhigh, hlow, hbytes⟩ := bytes_of_nextWord hword
  rw [Instruction.decode_eq_awaitKey_iff, hbytes] at hi
  have hx := x.isLt
  have hlt := low.toNat_lt
  have hhighByte : high = 0xF0 + x.toByte := by
    apply UInt8.toNat_inj.1
    simp only [UInt8.toNat_add, Nibble.toByte, UInt8.toNat_ofNat', UInt8.reduceToNat]
    omega
  have hlowByte : low = 0x0A := by
    have hten : (0x0A : UInt8).toNat = 10 := rfl
    apply UInt8.toNat_inj.1
    omega
  refine ⟨hm.pc_le hmode, ?_, ?_⟩
  · rw [hhigh, hhighByte]
  · rw [hlow, hlowByte]

/-! ## One step of a machine that waits -/

theorem serve_step_of_allUp (hmode : m.mode = .awaiting x) (hkeys : m.keypad.AllUp) (dice : Dice) :
    m.serve dice .step = ⟨.ok (.progress .wait), m, dice⟩ := by
  have hidle : m.Idle := ⟨⟨x, hmode⟩, Keypad.lowest?_eq_none_iff.2 hkeys⟩
  rw [serve, hidle.step_eq, hidle.rolls_eq]
  rfl

theorem serve_step_of_lowest (hmode : m.mode = .awaiting x) (hkey : m.keypad.Lowest key)
    (dice : Dice) :
    m.serve dice .step =
      ⟨.ok (.progress .proceed),
        { m.setRegister x key.toByte with pc := m.pc + 2, mode := .running }, dice⟩ := by
  have hrolls : m.rolls = false := by simp [rolls, hmode]
  rw [serve, step_of_awaiting hmode, hrolls, awaitKey, Keypad.lowest?_eq_some_iff.2 hkey]
  rfl

end Machine

namespace Turn

variable {t : Turn} {rs : List Request} {x : Register}

/-! ## Rows of requests -/

/-- As long as no step finds a key, nothing but keys and timers of a machine that waits
    changes. -/
theorem sameInside_of_unanswered (h : t.AtSteps (·.keypad.AllUp) rs)
    (hmode : t.machine.mode = .awaiting x) (hrs : ∀ r ∈ rs, r.goesOn = true) :
    t.machine.SameInside (t.andThen rs).machine := by
  induction rs generalizing t with
  | nil => exact .refl _
  | cons r rs ih =>
    obtain ⟨hhead, htail⟩ := atSteps_cons_iff.1 h
    have hone : t.machine.SameInside (t.machine.serve t.dice r).machine := by
      cases hr : r.isStep with
      | false => exact (Machine.serve_sameInside (hrs r List.mem_cons_self) hr _ _).1
      | true =>
        obtain rfl := Request.eq_step_of_isStep hr
        rw [Machine.serve_step_of_allUp hmode (hhead rfl)]
        exact .refl _
    have hrest : ∀ q ∈ rs, q.goesOn = true := fun q hq => hrs q (List.mem_cons_of_mem r hq)
    exact hone.trans (ih htail (hone.mode.trans hmode) hrest)

end Turn

namespace Machine

/-- Demands leave a machine parked that was just switched on. -/
theorem parked_meetAll (edge : SpriteEdge) (dice : Dice) (ds : List Demand) :
    ((start edge).meetAll dice ds).1.Parked := by
  rw [meetAll_machine]
  exact (parked_of_running rfl).serveAll dice _

/-- Whatever was done with a machine before, whenever it waits for a key it stands on
    the word that waits. From there on, whatever is done with it but to load, reset or
    restore, comes to a row of requests. Up to the first step of that row that finds a
    key down, nothing but its keys and timers changes and every step answers that it
    waits; that first step puts the lowest key into the register and goes on behind the
    word, and it changes nothing else. -/
theorem waits_until_key_down (edge : SpriteEdge) (dice : Dice) (history : List Demand) :
    let m := ((start edge).meetAll dice history).1
    ∀ x, m.mode = .awaiting x →
      (m.pc.toNat ≤ 0xFFE ∧ m.memory.read m.pc.toNat = .ok (0xF0 + x.toByte) ∧
        m.memory.read (m.pc.toNat + 1) = .ok 0x0A) ∧
      ∀ (draws : Dice) (future : List Demand), (∀ d ∈ future, d.goesOn = true) →
        let now := m.turn draws
        let asked := m.requestsOfAll draws future
        (now.andThen asked).machine = (m.meetAll draws future).1 ∧
          ∀ front, front <+: asked → now.AtSteps (·.keypad.AllUp) front →
            let before := (now.andThen front).machine
            let looked := now.andThen (front ++ [.step])
            m.SameInside before ∧
              (front ++ [.step] <+: asked →
                (before.keypad.AllUp →
                  looked.result = .ok (.progress .wait) ∧ looked.machine = before) ∧
                ∀ key, before.keypad.Lowest key →
                  looked.result = .ok (.progress .proceed) ∧
                    looked.machine =
                      { before.setRegister x key.toByte with
                        pc := before.pc + 2
                        mode := .running }) := by
  intro m x hmode
  refine ⟨(parked_meetAll edge dice history).bytes hmode, ?_⟩
  intro draws future hfuture now asked
  refine ⟨congrArg Prod.fst (now.andThen_requestsOfAll future), ?_⟩
  intro front hfront hunanswered before looked
  have hgoesOn : ∀ r ∈ front, r.goesOn = true :=
    fun r hr => m.requestsOfAll_goesOn draws hfuture r (hfront.subset hr)
  have hsame : m.SameInside before := Turn.sameInside_of_unanswered hunanswered hmode hgoesOn
  have hwaits : before.mode = .awaiting x := hsame.mode.trans hmode
  have hlooked : looked = before.serve (now.andThen front).dice .step :=
    Turn.andThen_concat now front .step
  refine ⟨hsame, fun _ => ⟨?_, ?_⟩⟩
  · intro hkeys
    rw [hlooked, serve_step_of_allUp hwaits hkeys]
    exact ⟨rfl, rfl⟩
  · intro key hkey
    rw [hlooked, serve_step_of_lowest hwaits hkey]
    exact ⟨rfl, rfl⟩

end Machine

namespace Ticker

/-- What parks a machine that was just switched on. -/
def park : List Demand := [.request (.restore parking.machine.saveState), .request .step]

theorem parked_park (dice : Dice) : ((Machine.start .spill).meetAll dice park).1 = parked := by
  have hproper : parking.machine.saveState.Proper :=
    ⟨Nat.zero_le callLimit, Display.crisp_blank⟩
  have hrestored : ((Machine.start .spill).restore parking.machine.saveState).machine =
      parking.machine := by
    rw [Machine.restore_of_proper _ hproper]
    rfl
  simp only [park, Machine.meetAll, Machine.meet, Machine.serve, hrestored, parking_step]

/-- A frame, and then two keys before the next step. -/
def twoKeys : List Demand :=
  [.frame 3 16666667 false, .request (.setKey 9 true), .request (.setKey 2 true), .request .step]

/-- The frame ends with its first step. -/
theorem parked_requestsOfAll (dice : Dice) :
    parked.requestsOfAll dice twoKeys =
      [.step, .tickTimers, .setKey 9 true, .setKey 2 true, .step] := by
  have hidle : parked.Idle := ⟨⟨4, rfl⟩, Keypad.lowest?_released⟩
  simp [twoKeys, Machine.requestsOfAll, Machine.requestsOf, Machine.batchRequests, hidle.step_eq]

/-- Of two keys the machine takes the lower one, though the other was pressed first. -/
theorem parked_takes_lower_key :
    ((Machine.start .spill).meetAll (.ofSeed 0) park).1 = parked ∧ parked.mode = .awaiting 4 ∧
      (parked.meetAll (.ofSeed 0) twoKeys).1 =
        { parked.setRegister 4 2 with
          pc := 0x202
          mode := .running
          sound := 0
          keypad := (Keypad.released.set 9 true).set 2 true } := by
  have hmode : ((Machine.start .spill).meetAll (.ofSeed 0) park).1.mode = .awaiting 4 := by
    rw [parked_park]
    rfl
  obtain ⟨-, hwait⟩ := Machine.waits_until_key_down .spill (.ofSeed 0) park 4 hmode
  obtain ⟨hall, hlook⟩ := hwait (.ofSeed 0) twoKeys (by decide)
  rw [parked_park, parked_requestsOfAll] at hall hlook
  have hallUp : parked.keypad.AllUp := Keypad.lowest?_eq_none_iff.1 Keypad.lowest?_released
  have hunanswered : (parked.turn (.ofSeed 0)).AtSteps (·.keypad.AllUp)
      [.step, .tickTimers, .setKey 9 true, .setKey 2 true] := by
    simp only [Turn.atSteps_cons_iff, Turn.atSteps_nil, and_true, reduceCtorEq,
      false_implies, true_implies]
    exact hallUp
  obtain ⟨-, hlooked⟩ := hlook _ ⟨[.step], rfl⟩ hunanswered
  obtain ⟨-, htaken⟩ := hlooked ⟨[], rfl⟩
  have hbefore : ((parked.turn (.ofSeed 0)).andThen
      [.step, .tickTimers, .setKey 9 true, .setKey 2 true]).machine =
      { parked with sound := 0, keypad := (Keypad.released.set 9 true).set 2 true } := by
    have hstep : (parked.turn (.ofSeed 0)).machine.serve (parked.turn (.ofSeed 0)).dice .step =
        ⟨.ok (.progress .wait), parked, .ofSeed 0⟩ := Machine.serve_step_of_allUp rfl hallUp _
    rw [Turn.andThen_cons, hstep]
    rfl
  rw [hbefore] at htaken
  obtain ⟨-, hmachine⟩ := htaken 2 ⟨by decide, by decide⟩
  exact ⟨parked_park _, rfl, hall.symm.trans hmachine⟩

end Ticker

end Chip8

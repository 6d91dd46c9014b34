-- SUMMARY: After a check a key is down exactly if its last report is at most 50 ms old, whatever is reported of other keys.
import Chip8.Proofs.Session.Reports

/-! # The timeout of keys

While symbols are pressed and held, a check finds each key by its last report alone: a key
is down up to 50 ms after it and pending just as long, and no earlier check makes a
difference. Each key goes by its own reports, and those of other keys could as well be
missing. -/

namespace Chip8

/-- A symbol is pressed or held, and not as Ctrl+C. -/
def KeyEvent.Types (e : KeyEvent) : Prop :=
  ∃ c, e.code = .symbol c ∧ e.action ≠ .release ∧ ¬(c = 'c' ∧ e.control = true)

/-- Among moments, the latest of which comes first, the last one that reports a key is at a
    time `t`. -/
def LastReported (moments : List Moment) (key : Key) (t : Nat) : Prop :=
  ∃ newer now older, moments = newer ++ now :: older ∧ now.time = t ∧
    (∃ action, now.Reports key action) ∧
    ∀ later ∈ newer, ¬∃ action, later.Reports key action

/-- A moment reports another key. -/
def Moment.reportsOther (now : Moment) (key : Key) : Bool :=
  match now.command? with
  | some (.hold other) => other ≠ key
  | _ => false

variable {key : Key} {now : Moment} {moments : List Moment} {t : Nat}

/-! ## The last report -/

theorem lastReport_eq_find? (key : Key) (moments : List Moment) :
    lastReport key moments =
      (moments.find? fun now => now.command? = some (.hold key)).map (·.time) := by
  induction moments with
  | nil => rfl
  | cons now earlier ih =>
    rw [lastReport, List.find?_cons]
    by_cases hnow : now.command? = some (.hold key)
    · simp [hnow]
    · simp [hnow, ih]

theorem lastReport_eq_some_iff : lastReport key moments = some t ↔ LastReported moments key t := by
  rw [lastReport_eq_find?, Option.map_eq_some_iff]
  simp only [List.find?_eq_some_iff_append, decide_eq_true_eq, Moment.command?_eq_hold_iff,
    Bool.not_eq_true', decide_eq_false_iff_not, LastReported]
  constructor
  · rintro ⟨now, ⟨hreport, newer, older, hmoments, hnewer⟩, htime⟩
    exact ⟨newer, now, older, hmoments, htime, hreport, hnewer⟩
  · rintro ⟨newer, now, older, hmoments, htime, hreport, hnewer⟩
    exact ⟨now, ⟨hreport, newer, older, hmoments, hnewer⟩, htime⟩

theorem KeyEvent.Types.not_load {e : KeyEvent} (h : e.Types) : e.command? ≠ some .load := by
  intro hload
  obtain ⟨c, hcode, -⟩ := h
  rw [(eq_of_load hload).1] at hcode
  cases hcode

namespace Session

variable {σ : Type} {store : File.Store (StateM σ)}

/-- A key that a check leaves down is pending, and no other key is. -/
theorem pending_released (report : Option Nat) (later : Nat) :
    (released later (reportedState report (false, none))).2.isSome =
      (released later (reportedState report (false, none))).1 := by
  unfold released
  split
  · rfl
  · cases report <;> rfl

/-! ## Other keys -/

theorem keyAfter_of_reportsOther (h : now.reportsOther key = true) (saved : Option Keypad)
    (state : Bool × Option Nat) : Scene.keyAfter saved key now state = state := by
  obtain ⟨time, event⟩ := now
  cases event with
  | frame | check => cases h
  | key e =>
    simp only [Moment.reportsOther] at h
    simp only [Scene.keyAfter]
    split at h
    · next other hcommand =>
      simp only [hcommand, if_neg (Ne.symm (of_decide_eq_true h))]
    · cases h

/-- What is reported of other keys makes no difference to a key. -/
theorem keyState_course_filter (start : Session) (history : List (Moment × σ)) (key : Key) :
    (start.course store (history.filter fun now => !now.1.reportsOther key)).keyState key =
      (start.course store history).keyState key := by
  induction history with
  | nil => rfl
  | cons now earlier ih =>
    rw [List.filter_cons, course, keyState_next, course_savePath, ← ih]
    cases hother : now.1.reportsOther key with
    | true => exact (keyAfter_of_reportsOther hother _ _).symm
    | false =>
      simp only [Bool.not_false, if_true]
      rw [course, keyState_next, course_savePath]

/-! ## The key at a check -/

/-- While symbols are pressed and held, with frames and checks in between, a check that is the
    latest of all these moments leaves a key down if its last report is no more than 50 ms
    ago, and exactly the keys that are down are pending. The reports of all other keys could
    be left out. -/
theorem down_iff_last_reported (store : File.Store (StateM σ)) (ticker : Ticker) (path : String)
    (hkeypad : ticker.machine.keypad = .released) (history : List (Moment × σ)) :
    let moments := history.map Prod.fst
    let fresh := start ticker path
    (∀ now ∈ moments, ∀ e, now.event = .key e → e.Types) →
    ∀ key : Key,
      (∀ time files, (∀ now ∈ moments, now.time ≤ time) →
        let last := fresh.course store ((⟨time, .check⟩, files) :: history)
        (last.ticker.machine.keypad.down.get key = true ↔
            ∃ t, LastReported moments key t ∧ time - t ≤ 50_000_000) ∧
          ((last.pending.get key).isSome = true ↔
            last.ticker.machine.keypad.down.get key = true)) ∧
        (fresh.course store history).keyState key =
          (fresh.course store (history.filter fun now => !now.1.reportsOther key)).keyState key := by
  intro moments fresh htypes key
  have hmem : ∀ now ∈ history, now.1 ∈ moments := fun now hnow => List.mem_map_of_mem hnow
  have hload : ∀ now ∈ history, now.1.command? ≠ some .load := by
    intro now hnow h
    obtain ⟨e, hevent, he⟩ := Moment.load_event h
    exact (htypes now.1 (hmem now hnow) e hevent).not_load he
  refine ⟨?_, (keyState_course_filter fresh history key).symm⟩
  intro time files hpast last
  have hstate : last.keyState key =
      released time (reportedState (lastReport key moments) (false, none)) := by
    have hcheck : last.keyState key = released time ((fresh.course store history).keyState key) :=
      (fresh.course store history).keyState_next ⟨time, .check⟩ files key
    rw [hcheck, released_course hload fun now hnow => hpast now.1 (hmem now hnow),
      keyState_start hkeypad]
  rw [Prod.ext_iff] at hstate
  obtain ⟨hdown, hpending⟩ : last.ticker.machine.keypad.down.get key =
        (released time (reportedState (lastReport key moments) (false, none))).1 ∧
      last.pending.get key =
        (released time (reportedState (lastReport key moments) (false, none))).2 := hstate
  constructor
  · rw [hdown, down_released_iff rfl]
    refine exists_congr fun t => and_congr lastReport_eq_some_iff ?_
    exact Nat.sub_le_iff_le_add'.symm
  · rw [hdown, hpending, pending_released]

/-- `q` is pressed and held, and in between `v` is pressed. -/
def overlappingKeys : List Moment := [
  ⟨52_000_000, .check⟩,
  ⟨45_000_000, .key { code := .symbol 'Q', shift := true, action := .hold }⟩,
  ⟨10_000_000, .key { code := .symbol 'v' }⟩,
  ⟨0, .key { code := .symbol 'q' }⟩]

/-- Exactly 50 ms after the last report of `q` its key is still down, while that of `v` was
    released. -/
theorem down_after_overlappingKeys :
    let files : Files := fun _ => .error .notFound
    let history := overlappingKeys.map fun now => (now, files)
    let last := (start Scene.freshTicker "rom.json").course Files.store
      ((⟨95_000_000, .check⟩, files) :: history)
    Scene.freshTicker.machine.keypad = .released ∧
      (∀ now ∈ history.map Prod.fst, ∀ e, now.event = .key e → e.Types) ∧
      (∀ now ∈ history.map Prod.fst, now.time ≤ 95_000_000) ∧
      last.ticker.machine.keypad.down.get (4 : Key) = true ∧
      (last.pending.get (4 : Key)).isSome = true ∧
      ¬last.ticker.machine.keypad.down.get (0xF : Key) = true := by
  intro files history
  have hmoments : history.map Prod.fst = overlappingKeys := rfl
  have htypes : ∀ now ∈ history.map Prod.fst, ∀ e, now.event = .key e → e.Types := by
    rw [hmoments]
    simp [overlappingKeys, KeyEvent.Types]
  have hpast : ∀ now ∈ history.map Prod.fst, now.time ≤ 95_000_000 := by
    rw [hmoments]
    simp [overlappingKeys]
  have hlaw := down_iff_last_reported Files.store Scene.freshTicker "rom.json" rfl history htypes
  have hq : LastReported overlappingKeys 4 45_000_000 := lastReport_eq_some_iff.1 rfl
  have hv : ∀ t, LastReported overlappingKeys 0xF t → t = 10_000_000 := by
    intro t ht
    have hlast : lastReport 0xF overlappingKeys = some 10_000_000 := rfl
    rw [← lastReport_eq_some_iff, hlast] at ht
    exact (Option.some.inj ht).symm
  obtain ⟨hdown, hpending⟩ := (hlaw 4).1 95_000_000 files hpast
  obtain ⟨hdown', -⟩ := (hlaw 0xF).1 95_000_000 files hpast
  have hkey := hdown.2 ⟨45_000_000, hq, by decide⟩
  dsimp only
  refine ⟨rfl, htypes, hpast, hkey, hpending.2 hkey, mt hdown'.1 ?_⟩
  rintro ⟨t, ht, hlate⟩
  rw [hv t ht] at hlate
  exact absurd hlate (by decide)

end Session

end Chip8

-- SUMMARY: A key is down as long as it was reported lately, even if it was reported released.
import Chip8.Proofs.Session.HeldKeys

/-! # Reports of keys

A terminal reports that a key was pressed, that it is held, or that it was released.
A session hears the report of a symbol and does not ask what it says: each of them
presses the key and puts its release off. So after a check a key is down exactly if it
was reported within 50 ms. A report that it was released counts for that as well, and
where it is the only one, the key is down though nobody pressed it. -/

namespace Chip8

/-- An event is about a key of the keypad. Ctrl+C is not. -/
def KeyEvent.Reports (e : KeyEvent) (key : Key) : Prop :=
  ∃ c, e.code = .symbol c ∧ keyOf? c = some key ∧ ¬(c = 'c' ∧ e.control = true)

/-- A key is reported in some way at a moment. -/
def Moment.Reports (now : Moment) (key : Key) (action : KeyAction) : Prop :=
  ∃ e, now.event = .key e ∧ e.action = action ∧ e.Reports key

/-- A key was reported in some way at a moment that is no more than 50 ms ago. -/
def ReportedLately (moments : List Moment) (time : Nat) (key : Key) (action : KeyAction) : Prop :=
  ∃ now ∈ moments, now.Reports key action ∧ time ≤ now.time + 50_000_000

variable {e : KeyEvent} {key : Key} {now : Moment} {moments : List Moment}

/-! ## Commands of reports -/

/-- The events that are about a key are those that hold it. -/
theorem KeyEvent.command?_eq_hold_iff : e.command? = some (.hold key) ↔ e.Reports key := by
  unfold command? Reports
  cases e.code with
  | symbol c =>
    simp only [KeyCode.symbol.injEq, exists_eq_left']
    split
    · next hstop => simp [hstop]
    · next hstop => simp [hstop]
  | function n =>
    simp only [reduceCtorEq, false_and, exists_false, iff_false]
    split
    · exact nofun
    · split
      · simp
      · split <;> simp
  | escape | other => simp

theorem Moment.command?_eq_hold_iff :
    now.command? = some (.hold key) ↔ ∃ action, now.Reports key action := by
  obtain ⟨time, event⟩ := now
  constructor
  · intro h
    cases event with
    | key e => exact ⟨e.action, e, rfl, rfl, KeyEvent.command?_eq_hold_iff.1 h⟩
    | frame | check => cases h
  · rintro ⟨action, e, hevent, -, he⟩
    rw [Moment.command?, hevent]
    exact KeyEvent.command?_eq_hold_iff.2 he

/-- Only F9 loads, when it goes down. -/
theorem KeyEvent.eq_of_load (h : e.command? = some .load) :
    e.code = .function 9 ∧ e.action = .press := by
  unfold command? at h
  cases hcode : e.code with
  | function n =>
    simp only [hcode] at h
    split at h
    · cases h
    · next haction =>
      split at h
      · cases h
      · split at h
        · next hn => exact ⟨congrArg KeyCode.function hn, Decidable.not_not.1 haction⟩
        · cases h
  | symbol c =>
    simp only [hcode] at h
    split at h
    · cases h
    · obtain ⟨key, -, hkey⟩ := Option.map_eq_some_iff.1 h
      cases hkey
  | escape | other =>
    simp only [hcode] at h
    cases h

theorem Moment.load_event (h : now.command? = some .load) :
    ∃ e, now.event = .key e ∧ e.command? = some .load := by
  obtain ⟨time, event⟩ := now
  cases event with
  | key e => exact ⟨e, rfl, h⟩
  | frame | check => cases h

/-! ## The last report -/

/-- When a key was last reported, in whatever way. -/
def lastReport (key : Key) : List Moment → Option Nat
  | [] => none
  | now :: earlier =>
    if now.command? = some (.hold key) then some now.time else lastReport key earlier

theorem exists_of_lastReport {t : Nat} (h : lastReport key moments = some t) :
    ∃ now ∈ moments, now.command? = some (.hold key) ∧ now.time = t := by
  induction moments with
  | nil => cases h
  | cons now earlier ih =>
    rw [lastReport] at h
    split at h
    · next hnow => exact ⟨now, List.mem_cons_self, hnow, Option.some.inj h⟩
    · obtain ⟨past, hpast, hreport⟩ := ih h
      exact ⟨past, List.mem_cons_of_mem now hpast, hreport⟩

/-- No report is later than the last one. -/
theorem le_lastReport (hsorted : moments.Pairwise fun now past => past.time ≤ now.time)
    (hnow : now ∈ moments) (hreport : now.command? = some (.hold key)) :
    ∃ t, lastReport key moments = some t ∧ now.time ≤ t := by
  induction moments with
  | nil => cases hnow
  | cons last earlier ih =>
    obtain ⟨hlast, hearlier⟩ := List.pairwise_cons.1 hsorted
    rw [lastReport]
    split
    · refine ⟨last.time, rfl, ?_⟩
      rcases List.mem_cons.1 hnow with rfl | hpast
      · exact Nat.le_refl _
      · exact hlast now hpast
    · next hother =>
      rcases List.mem_cons.1 hnow with rfl | hpast
      · exact absurd hreport hother
      · exact ih hearlier hpast

/-- A key was reported lately if its last report is not long ago. -/
theorem reportedLately_iff (hsorted : moments.Pairwise fun now past => past.time ≤ now.time)
    (time : Nat) (key : Key) :
    (∃ action, ReportedLately moments time key action) ↔
      ∃ t, lastReport key moments = some t ∧ time ≤ t + 50_000_000 := by
  constructor
  · rintro ⟨action, now, hnow, hreport, hlate⟩
    obtain ⟨t, ht, hle⟩ :=
      le_lastReport hsorted hnow (Moment.command?_eq_hold_iff.2 ⟨action, hreport⟩)
    exact ⟨t, ht, Nat.le_trans hlate (Nat.add_le_add_right hle _)⟩
  · rintro ⟨t, ht, hlate⟩
    obtain ⟨now, hnow, hhold, rfl⟩ := exists_of_lastReport ht
    obtain ⟨action, hreport⟩ := Moment.command?_eq_hold_iff.1 hhold
    exact ⟨action, now, hnow, hreport, hlate⟩

namespace Session

variable {σ : Type} {store : File.Store (StateM σ)}

/-! ## Keys after a check -/

/-- What a key comes to from its last report, if there is one. -/
def reportedState (report : Option Nat) (state : Bool × Option Nat) : Bool × Option Nat :=
  match report with
  | some time => (true, some time)
  | none => state

/-- Where nothing is loaded, only reports and checks change the state of a key. -/
theorem keyAfter_of_not_load {saved : Option Keypad} (hload : now.command? ≠ some .load)
    (hcheck : now.event ≠ .check) (state : Bool × Option Nat) :
    Scene.keyAfter saved key now state =
      if now.command? = some (.hold key) then (true, some now.time) else state := by
  obtain ⟨time, event⟩ := now
  cases event with
  | check => exact absurd rfl hcheck
  | frame dice => rfl
  | key e =>
    simp only [Scene.keyAfter]
    generalize Moment.command? ⟨time, .key e⟩ = command at hload ⊢
    cases command with
    | none => rfl
    | some c =>
      cases c with
      | stop | save => rfl
      | load => exact absurd rfl hload
      | hold other => simp only [Option.some.injEq, Command.hold.injEq, eq_comm]

/-- A check sees of an earlier moment that loads nothing whether it reports the key, and
    no more. -/
theorem released_keyAfter {saved : Option Keypad} {later : Nat} (hload : now.command? ≠ some .load)
    (hlater : now.time ≤ later) (state : Bool × Option Nat) :
    released later (Scene.keyAfter saved key now state) =
      released later (if now.command? = some (.hold key) then (true, some now.time) else state) := by
  by_cases hcheck : now.event = .check
  · have hnone : now.command? = none := by rw [Moment.command?, hcheck]
    simp only [Scene.keyAfter, hcheck, hnone, reduceCtorEq, if_false]
    exact released_released hlater state
  · rw [keyAfter_of_not_load hload hcheck]

/-- A check finds each key as it was last reported. -/
theorem released_course {start : Session} {history : List (Moment × σ)} {later : Nat}
    (hload : ∀ now ∈ history, now.1.command? ≠ some .load)
    (hlater : ∀ now ∈ history, now.1.time ≤ later) (key : Key) :
    released later ((start.course store history).keyState key) =
      released later
        (reportedState (lastReport key (history.map Prod.fst)) (start.keyState key)) := by
  induction history with
  | nil => rfl
  | cons now earlier ih =>
    have hrest := ih (fun past hpast => hload past (List.mem_cons_of_mem now hpast))
      (fun past hpast => hlater past (List.mem_cons_of_mem now hpast))
    rw [course, keyState_next, released_keyAfter (hload now List.mem_cons_self)
      (hlater now List.mem_cons_self), List.map_cons, lastReport]
    split
    · rfl
    · exact hrest

/-- A key that was up is down at a check if its last report is not long ago. -/
theorem down_released_iff {report : Option Nat} {state : Bool × Option Nat} (hup : state.1 = false)
    (later : Nat) :
    (released later (reportedState report state)).1 = true ↔
      ∃ t, report = some t ∧ later ≤ t + releaseDelay := by
  cases report with
  | none =>
    have hstays : (released later state).1 = false := by
      unfold released
      split
      · rfl
      · exact hup
    simp [reportedState, hstays]
  | some t =>
    have hdue : isDue later (some t) = decide (releaseDelay < later - t) := rfl
    simp only [reportedState, released, hdue, Option.some.injEq, exists_eq_left']
    by_cases hlate : releaseDelay < later - t
    · simp only [hlate, decide_true, if_true, Bool.false_eq_true, false_iff]
      omega
    · simp only [hlate, decide_false, Bool.false_eq_true, if_false, true_iff]
      omega

/-- A report that a key was released acts as any other report of it: the key is down and
    its release is put off, and nothing else about keys changes. So at a check, a key
    that was up in the beginning is down exactly if it was reported lately, in whatever
    way. That it was then pressed or held is true exactly if it was so whenever it was
    reported released. -/
theorem down_iff_reported_lately (store : File.Store (StateM σ)) :
    (∀ (s : Session) (time : Nat) (files : σ) (e : KeyEvent) (key : Key), e.action = .release →
        (e.Reports key →
          (s.next store ⟨time, .key e⟩ files).keyState key = (true, some time)) ∧
        (¬e.Reports key →
          (s.next store ⟨time, .key e⟩ files).keyState key = s.keyState key)) ∧
      ∀ (start : Session) (history : List (Moment × σ)),
        let moments := history.map Prod.fst
        (moments.Pairwise fun now past => past.time ≤ now.time) →
        (∀ now ∈ moments, ∀ e, now.event = .key e → e.code ≠ .function 9) →
        ∀ time, (∀ now ∈ moments, now.time ≤ time) →
          ∀ key : Key, start.ticker.machine.keypad.down.get key = false →
            let last := (start.course store history).releaseDue time
            let lately := ReportedLately moments time key
            (last.ticker.machine.keypad.down.get key = true ↔ ∃ action, lately action) ∧
              ((last.ticker.machine.keypad.down.get key = true → lately .press ∨ lately .hold) ↔
                (lately .release → lately .press ∨ lately .hold)) := by
  refine ⟨fun s time files e key haction => ?_, fun start history => ?_⟩
  · have hload : Moment.command? ⟨time, .key e⟩ ≠ some .load := by
      intro h
      have hpress := (KeyEvent.eq_of_load h).2
      rw [haction] at hpress
      cases hpress
    have hhold : Moment.command? ⟨time, .key e⟩ = some (.hold key) ↔ e.Reports key :=
      KeyEvent.command?_eq_hold_iff
    rw [keyState_next, keyAfter_of_not_load hload Event.noConfusion]
    exact ⟨fun hreports => if_pos (hhold.2 hreports), fun hother => if_neg (mt hhold.1 hother)⟩
  · intro moments hsorted hcode time hpast key hup last lately
    have hmem : ∀ now ∈ history, now.1 ∈ moments := fun now hnow => List.mem_map_of_mem hnow
    have hload : ∀ now ∈ history, now.1.command? ≠ some .load := by
      intro now hnow h
      obtain ⟨e, hevent, he⟩ := Moment.load_event h
      exact hcode now.1 (hmem now hnow) e hevent (KeyEvent.eq_of_load he).1
    have hstate : last.keyState key =
        released time (reportedState (lastReport key moments) (start.keyState key)) := by
      rw [keyState_releaseDue, released_course hload fun now hnow => hpast now.1 (hmem now hnow)]
    have hdown : last.ticker.machine.keypad.down.get key = true ↔ ∃ action, lately action := by
      rw [reportedLately_iff hsorted]
      have hfirst := congrArg Prod.fst hstate
      exact (iff_of_eq (congrArg (· = true) hfirst)).trans (down_released_iff hup time)
    refine ⟨hdown, fun h hrelease => h (hdown.2 ⟨.release, hrelease⟩), fun h hkey => ?_⟩
    obtain ⟨action, haction⟩ := hdown.1 hkey
    cases action with
    | press => exact .inl haction
    | hold => exact .inr haction
    | release => exact h haction

/-- A report that `q` was released, out of the blue. -/
def strayRelease : KeyEvent := { code := .symbol 'q', action := .release }

theorem strayRelease_reports : strayRelease.Reports 4 := ⟨'q', rfl, rfl, by decide⟩

/-- Nobody pressed `q`, and still its key is down. -/
theorem down_after_strayRelease :
    let fresh := start Scene.freshTicker "rom.json"
    let history : List (Moment × Files) := [(⟨0, .key strayRelease⟩, fun _ => .error .notFound)]
    let moments := history.map Prod.fst
    let lately := ReportedLately moments (20_000_000) 4
    (moments.Pairwise fun now past => past.time ≤ now.time) ∧
      (∀ now ∈ moments, ∀ e, now.event = .key e → e.code ≠ .function 9) ∧
      (∀ now ∈ moments, now.time ≤ 20_000_000) ∧
      fresh.ticker.machine.keypad.down.get (4 : Key) = false ∧
      strayRelease.action = .release ∧ strayRelease.Reports 4 ∧
      ((fresh.course Files.store history).releaseDue (20_000_000)).ticker.machine.keypad.down.get
        (4 : Key) = true ∧
      ¬(lately .press ∨ lately .hold) := by
  intro fresh history moments lately
  have hsorted : moments.Pairwise fun now past => past.time ≤ now.time := List.pairwise_singleton _ _
  have hmoment : ∀ now ∈ moments, now = ⟨0, .key strayRelease⟩ := fun now => List.mem_singleton.1
  have hcode : ∀ now ∈ moments, ∀ e, now.event = .key e → e.code ≠ .function 9 := by
    intro now hnow e hevent
    rw [hmoment now hnow] at hevent
    cases hevent
    exact nofun
  have htime : ∀ now ∈ moments, now.time ≤ 20_000_000 := by
    intro now hnow
    rw [hmoment now hnow]
    exact Nat.zero_le _
  have hup : fresh.ticker.machine.keypad.down.get (4 : Key) = false :=
    Vector.getElem_replicate (by decide)
  have hlate : lately .release :=
    ⟨_, List.mem_singleton_self _, ⟨strayRelease, rfl, rfl, strayRelease_reports⟩, by decide⟩
  have hother : ∀ action, lately action → action = .release := by
    rintro action ⟨now, hnow, ⟨e, hevent, haction, -⟩, -⟩
    rw [hmoment now hnow] at hevent
    cases hevent
    exact haction.symm
  obtain ⟨hdown, -⟩ := (down_iff_reported_lately Files.store).2 fresh history hsorted hcode _ htime 4 hup
  refine ⟨hsorted, hcode, htime, hup, rfl, strayRelease_reports, hdown.2 ⟨_, hlate⟩, ?_⟩
  rintro (hpress | hhold)
  · cases hother _ hpress
  · cases hother _ hhold

end Session

end Chip8

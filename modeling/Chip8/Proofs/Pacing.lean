-- SUMMARY: Good settings give a ticker whose batch and whose frames are as long as the rates ask for.
import Chip8.Proofs.Decimal.Rounding
import Chip8.Ticker

/-! # Pacing

A ticker is made for settings with at least one instruction for each frame. A frame gets
the whole instructions of its share of a second, and lasts for a whole number of
nanoseconds nearest to that share, though the share was rounded to binary64 before. -/

namespace Chip8

open Decimal

namespace Settings

variable {s : Settings}

theorem fault?_eq_none_iff : s.fault? = none ↔ 1 ≤ s.frameRate ∧ s.frameRate ≤ s.speed := by
  unfold fault?
  split
  · simp only [reduceCtorEq, false_iff]
    omega
  · split
    · simp only [reduceCtorEq, false_iff]
      omega
    · simp only [true_iff]
      omega

/-- The share of a frame is divided by a number that is not zero, whatever the settings. -/
theorem exists_rest_of_batch (s : Settings) :
    ∃ rest < max s.frameRate 1, s.speed = s.batch * max s.frameRate 1 + rest := by
  have hpos : 0 < max s.frameRate 1 := Nat.lt_of_lt_of_le Nat.zero_lt_one (Nat.le_max_right _ _)
  exact ⟨s.speed % max s.frameRate 1, Nat.mod_lt _ hpos, (Nat.div_add_mod' _ _).symm⟩

theorem batch_of_good (hframes : 1 ≤ s.frameRate) (hspeed : s.frameRate ≤ s.speed) :
    1 ≤ s.batch ∧ s.batch * s.frameRate ≤ s.speed ∧ s.speed < (s.batch + 1) * s.frameRate := by
  obtain ⟨rest, hrest, hshare⟩ := s.exists_rest_of_batch
  rw [Nat.max_eq_left hframes] at hrest hshare
  refine ⟨?_, ?_, ?_⟩
  · refine Nat.pos_of_ne_zero fun hbatch => ?_
    rw [hbatch, Nat.zero_mul, Nat.zero_add] at hshare
    omega
  · omega
  · rw [Nat.succ_mul]
    omega

/-- The nanoseconds of a frame are those of its share as a binary64 number. -/
theorem rounds_frameNanos (s : Settings) :
    Rounds ((Binary64.nearest 1 s.frameRate).units * 10 ^ 9) unitsPerOne s.frameNanos :=
  rounds_roundDiv ((Binary64.nearest 1 s.frameRate).units * 1_000_000_000)
    Binary64.unitsPerOne_pos

/-- Rounding to binary64 first does not move a frame away from the nearest nanoseconds. -/
theorem frameNanos_nearest (hframes : 1 ≤ s.frameRate) (hlimit : s.frameRate < 2 ^ 32) :
    2 * (s.frameNanos * s.frameRate - 10 ^ 9 : Int).natAbs ≤ s.frameRate := by
  have hnanos : s.frameRate * 10 ^ 9 < unitsPerOne := by
    refine Nat.lt_of_lt_of_le ?_ (Binary64.two_pow_le_unitsPerOne (k := 64) (by decide))
    omega
  have hshort : 1 * 10 ^ 9 < 2 ^ 52 := by decide
  have hnear := (Binary64.isQuotient_nearest 1 hframes).nearest_multiple hshort hnanos
    s.rounds_frameNanos
  simpa using hnear

end Settings

namespace Ticker

open Settings

theorem ofMachine_eq_ok_iff {m : Machine} {s : Settings} {t : Ticker} :
    ofMachine m s = .ok t ↔
      (1 ≤ s.frameRate ∧ s.frameRate ≤ s.speed) ∧
        t = { machine := m, batch := s.batch, frameNanos := s.frameNanos } := by
  rw [ofMachine, ← fault?_eq_none_iff]
  cases s.fault? with
  | none => simp [eq_comm]
  | some fault => simp

/-- For rates of 32 bits a ticker is made exactly if there are frames and no more of them than
    instructions. Then a frame takes the whole instructions of its share of a second, one at
    least, and lasts for the nanoseconds nearest to that share. They come from two roundings,
    of the share to binary64 and of its nanoseconds to a whole number, each with ties to
    even. Also for other settings the instructions of a frame are a proper quotient. -/
theorem ofSettings_paces (frameRate speed : UInt32) (edge : SpriteEdge) :
    let settings : Settings := ⟨frameRate.toNat, speed.toNat, edge⟩
    ((∃ t, ofSettings settings = .ok t) ↔
        1 ≤ frameRate.toNat ∧ frameRate.toNat ≤ speed.toNat) ∧
      (∀ t, ofSettings settings = .ok t →
        1 ≤ t.batch ∧ t.batch * frameRate.toNat ≤ speed.toNat ∧
          speed.toNat < (t.batch + 1) * frameRate.toNat ∧
          2 * (t.frameNanos * frameRate.toNat - 10 ^ 9 : Int).natAbs ≤ frameRate.toNat ∧
          ∃ share : Binary64, share.IsQuotient 1 frameRate.toNat ∧
            Rounds (share.units * 10 ^ 9) unitsPerOne t.frameNanos) ∧
      ∃ rest < max frameRate.toNat 1,
        speed.toNat = settings.batch * max frameRate.toNat 1 + rest := by
  intro settings
  refine ⟨?_, fun t ht => ?_, settings.exists_rest_of_batch⟩
  · constructor
    · rintro ⟨t, ht⟩
      exact (ofMachine_eq_ok_iff.1 ht).1
    · intro hgood
      exact ⟨_, ofMachine_eq_ok_iff.2 ⟨hgood, rfl⟩⟩
  · obtain ⟨⟨hframes, hspeed⟩, ht⟩ := ofMachine_eq_ok_iff.1 ht
    have hbatch : t.batch = settings.batch := congrArg Ticker.batch ht
    have hnanos : t.frameNanos = settings.frameNanos := congrArg Ticker.frameNanos ht
    obtain ⟨hpositive, hbelow, habove⟩ := batch_of_good hframes hspeed
    rw [hbatch, hnanos]
    exact ⟨hpositive, hbelow, habove, frameNanos_nearest hframes frameRate.toNat_lt, _,
      Binary64.isQuotient_nearest 1 hframes, settings.rounds_frameNanos⟩

/-- More than a thousand million frames a second last for one nanosecond each or for none. At
    two thousand million, half a nanosecond is as near to none as to one. -/
theorem paces_of_briefest :
    ∃ t, ofSettings ⟨2_000_000_000, 4_294_967_295, .spill⟩ = .ok t ∧ t.batch = 2 ∧
      t.frameNanos ≤ 1 ∧
      ¬∃ t, ofSettings ⟨4_294_967_295, 4_294_967_294, .spill⟩ = .ok t := by
  obtain ⟨hmade, hpaces, -⟩ := ofSettings_paces 2_000_000_000 4_294_967_295 .spill
  obtain ⟨hrefused, -, -⟩ := ofSettings_paces 4_294_967_295 4_294_967_294 .spill
  have hgood : 1 ≤ (2_000_000_000 : UInt32).toNat ∧
      (2_000_000_000 : UInt32).toNat ≤ (4_294_967_295 : UInt32).toNat := by decide
  obtain ⟨t, ht⟩ := hmade.2 hgood
  obtain ⟨-, hbelow, habove, hnanos, -⟩ := hpaces t ht
  have hrate : (2_000_000_000 : UInt32).toNat = 2_000_000_000 := rfl
  have hspeed : (4_294_967_295 : UInt32).toNat = 4_294_967_295 := rfl
  rw [hrate] at hbelow habove hnanos
  rw [hspeed] at hbelow habove
  refine ⟨t, ht, ?_, ?_, mt hrefused.1 (by decide)⟩
  · omega
  · omega

end Ticker

end Chip8

-- SUMMARY: A value that is read ends where it ends when it is skipped.
import Chip8.Proofs.Json.Skip

/-! # Where values end

The readers of shapes refuse most values. What one of them takes, though, would
have been skipped up to the same place, so on a text that is known to be a value
a reader can only take all of it. -/

namespace Chip8.Json

variable {s t v rest after : List Char} {c : Char} {around outer : List Bracket} {n : Int}
  {negative : Bool}

/-! ## Whole numbers -/

theorem real_ne_integer {significand : Nat} {exponent : Int} :
    real negative significand exponent s ≠ .ok (.integer n, rest) := by
  intro h
  obtain ⟨x, -, hx⟩ := map_eq_ok_iff.1 h
  cases (Prod.mk.inj hx).1

theorem readExponent_ne_integer {significand : Nat} {start : Int} :
    readExponent negative significand start s ≠ .ok (.integer n, rest) := by
  intro h
  simp only [readExponent] at h
  split at h
  · cases h
  · split at h
    · cases h
    · split at h
      · split at h <;> simp at h
      · exact real_ne_integer h

theorem readFraction_ne_integer {significand : Nat} {start : Int} :
    readFraction negative significand start s ≠ .ok (.integer n, rest) := by
  intro h
  simp only [readFraction] at h
  split at h
  · cases h
  · split at h
    · exact real_ne_integer h
    · split at h
      · exact readExponent_ne_integer h
      · exact real_ne_integer h

/-- A number that is whole has lost none of its digits and has nothing behind them. -/
theorem skipAfterDigits_of_read {significand dropped : Nat}
    (h : readAfterDigits negative significand dropped s = .ok (.integer n, rest)) :
    dropped = 0 ∧ skipAfterDigits s = .ok rest := by
  have hplain : ∀ {t : List Char},
      (if dropped = 0 then Except.ok (whole negative significand, t)
        else real negative significand dropped t) = .ok (.integer n, rest) →
      dropped = 0 ∧ rest = t := by
    intro t ht
    split at ht
    · next hzero =>
      simp only [Except.ok.injEq, Prod.mk.injEq] at ht
      exact ⟨hzero, ht.2.symm⟩
    · exact absurd ht real_ne_integer
  simp only [readAfterDigits] at h
  split at h
  · obtain ⟨hzero, hrest⟩ := hplain h
    rw [hrest]
    exact ⟨hzero, rfl⟩
  · split at h
    · exact absurd h readFraction_ne_integer
    · next hpoint =>
      split at h
      · exact absurd h readExponent_ne_integer
      · next hmark =>
        obtain ⟨hzero, hrest⟩ := hplain h
        rw [hrest]
        exact ⟨hzero, by simp [skipAfterDigits, skipOptionalExponent, hpoint, hmark]⟩

theorem skipDigits_takeSignificand (significand taken : Nat) (s : List Char) :
    skipDigits (takeSignificand significand taken s).2.2 = skipDigits s := by
  induction s generalizing significand taken with
  | nil => rfl
  | cons c s ih =>
    simp only [takeSignificand]
    split
    · next htake =>
      have hc : c.isDigit = true := (Bool.and_eq_true_iff.1 htake).1
      rw [ih]
      simp [skipDigits, hc]
    · rfl

theorem skipUnsigned_of_read (h : readUnsigned negative s = .ok (.integer n, rest)) :
    skipUnsigned s = .ok rest := by
  unfold readUnsigned at h
  split at h
  · cases h
  · next c s =>
    split at h
    · next hzero =>
      split at h
      · cases h
      · next hdigit =>
        simp [skipUnsigned, hzero, hdigit, (skipAfterDigits_of_read h).2]
    · next hzero =>
      split at h
      · next hc =>
        have htail : skipDigits (c :: s) = skipDigits s := by simp [skipDigits, hc]
        have hdigits := skipDigits_takeSignificand 0 0 (c :: s)
        generalize takeSignificand 0 0 (c :: s) = taken at h hdigits
        obtain ⟨significand, count, left⟩ := taken
        obtain ⟨-, hskip⟩ := skipAfterDigits_of_read h
        rw [hdigits, htail] at hskip
        simp [skipUnsigned, hzero, hc, hskip]
      · cases h

theorem skipNumber_of_read (h : readNumber s = .ok (.integer n, rest)) :
    skipNumber s = .ok rest := by
  unfold readNumber at h
  unfold skipNumber
  split at h <;> exact skipUnsigned_of_read h

/-! ## Scalars -/

theorem skipOpen_of_readNatural {limit k : Nat} {expected : String}
    (h : readNatural limit expected s = .ok (k, rest)) (around : List Bracket) :
    skipOpen around s = skipItems around false rest := by
  unfold readNatural at h
  split at h
  · cases h
  · next c t hs =>
    split at h
    · next hc =>
      have hfirst : c ≠ 'n' ∧ c ≠ 't' ∧ c ≠ 'f' ∧ c ≠ '"' ∧ c ≠ '[' ∧ c ≠ '\x7b' := by
        refine ⟨?_, ?_, ?_, ?_, ?_, ?_⟩ <;> rintro rfl <;> exact absurd hc (by decide)
      obtain ⟨hn, ht, hf, hquote, hlist, hobject⟩ := hfirst
      split at h
      · cases h
      · cases h
      · next hnumber =>
        split at h <;> simp only [Except.ok.injEq, Prod.mk.injEq, reduceCtorEq] at h
        have hskip := skipNumber_of_read hnumber
        rw [h.2] at hskip
        refine skipOpen_atom hs hlist hobject ?_ around
        simp [skipAtom, hn, ht, hf, hquote, hc, hskip]
    · cases h

theorem skipOpen_of_readFlag {flag : Bool} (h : readFlag s = .ok (flag, rest))
    (around : List Bracket) : skipOpen around s = skipItems around false rest := by
  unfold readFlag at h
  split at h
  · cases h
  · next c t hs =>
    split at h
    · next hc =>
      subst hc
      refine skipOpen_atom hs (by decide) (by decide) ?_ around
      simp [skipAtom, (map_left_eq_ok h).1]
    · split at h
      · next hc =>
        subst hc
        refine skipOpen_atom hs (by decide) (by decide) ?_ around
        simp [skipAtom, (map_left_eq_ok h).1]
      · cases h

/-- A scalar that is read would have been skipped up to the same place. -/
theorem Scalar.skipOpen_of_read {k : Scalar} {x : k.Value} (h : k.read s = .ok (x, rest))
    (around : List Bracket) : skipOpen around s = skipItems around false rest := by
  cases k with
  | byte =>
    obtain ⟨n, hn, -⟩ := map_read_eq_ok h
    exact skipOpen_of_readNatural hn around
  | word =>
    obtain ⟨n, hn, -⟩ := map_read_eq_ok h
    exact skipOpen_of_readNatural hn around
  | flag => exact skipOpen_of_readFlag h around

/-! ## Lists -/

/-- An item that is taken from a list and skipped brings the list behind it. -/
theorem skipItems_of_nextItem {first : Bool} {item : List Char}
    (hnext : nextItem first s = .ok (some item))
    (hitem : ∀ around, skipOpen around item = skipItems around false after) :
    skipItems (.list :: outer) first s = skipItems (.list :: outer) false after := by
  unfold nextItem at hnext
  split at hnext
  · cases hnext
  · next c t hs =>
    split at hnext
    · cases hnext
    · next hc =>
      split at hnext
      · next hfirst =>
        simp only [Except.ok.injEq, Option.some.injEq] at hnext
        have hclosing : c ≠ Bracket.closing .list := hc
        rw [hfirst, skipItems_first hs hclosing, skipMember_list, hnext, hitem]
      · next hfirst =>
        split at hnext
        · next hcomma =>
          subst hcomma
          split at hnext
          · cases hnext
          · next d more ht =>
            split at hnext
            · cases hnext
            · simp only [Except.ok.injEq, Option.some.injEq] at hnext
              have hsame : ∀ around, skipOpen around t = skipOpen around item := by
                intro around
                rw [skipOpen_eq, skipOpen_eq around item, ht, ← hnext, skipBlanks_of_eq ht]
              rw [Bool.eq_false_iff.2 hfirst, skipItems_comma hs, skipMember_list, hsame, hitem]
        · cases hnext

/-- A list closes at its closing bracket only. -/
theorem close_of_closeList (h : closeList s = .ok rest) : skipBlanks s = ']' :: rest := by
  unfold closeList at h
  split at h
  · cases h
  · next hs =>
    rw [hs]
    split at h
    · next hc => rw [hc, Except.ok.inj h]
    · split at h <;> cases h

theorem skipItems_of_closeList {first : Bool} (h : closeList s = .ok rest) :
    skipItems (.list :: outer) first s = skipItems outer false rest :=
  skipItems_close (close_of_closeList h)

theorem skipItems_of_readExactly {k : Scalar} {expected : String} {taken missing : Nat}
    {items : { items : List k.Value // items.length = missing }}
    (h : readExactly k expected taken missing s = .ok (items, rest)) :
    skipItems (.list :: outer) (taken == 0) s =
      skipItems (.list :: outer) (taken + missing == 0) rest := by
  induction missing generalizing taken s rest with
  | zero =>
    simp only [readExactly, Except.ok.injEq, Prod.mk.injEq] at h
    rw [h.2]
    rfl
  | succ missing ih =>
    unfold readExactly at h
    split at h
    · cases h
    · cases h
    · next hnext =>
      split at h
      · cases h
      · next hread =>
        split at h
        · cases h
        · next hmore =>
          simp only [Except.ok.injEq, Prod.mk.injEq] at h
          rw [skipItems_of_nextItem hnext (Scalar.skipOpen_of_read hread), ← h.2]
          have hindex : taken + (missing + 1) = taken + 1 + missing := by omega
          rw [hindex]
          exact ih hmore

theorem skipItems_of_readMany {k : Scalar} {sofar items : List k.Value}
    (h : readMany k sofar s = .ok (items, rest)) :
    ∃ first, skipItems (.list :: outer) sofar.isEmpty s = skipItems (.list :: outer) first rest := by
  fun_induction readMany k sofar s with
  | case1 => cases h
  | case2 =>
    cases h
    exact ⟨_, rfl⟩
  | case3 => cases h
  | case4 sofar s item hnext x after hread _ _ ih =>
    obtain ⟨first, hfirst⟩ := ih h
    exact ⟨first, (skipItems_of_nextItem hnext (Scalar.skipOpen_of_read hread)).trans hfirst⟩

theorem skipOpen_of_openList {expected : String} (h : openList expected s = .ok t)
    (around : List Bracket) : skipOpen around s = skipItems (.list :: around) true t := by
  unfold openList at h
  split at h
  · cases h
  · next c rest hs =>
    split at h
    · next hc =>
      subst hc
      rw [Except.ok.injEq] at h
      subst h
      exact skipOpen_list hs around
    · cases h

/-! ## Shapes -/

/-- A value that is read would have been skipped up to the same place. -/
theorem Shape.skipOpen_of_read {k : Shape} {x : k.Value} (h : k.read s = .ok (x, rest))
    (around : List Bracket) : skipOpen around s = skipItems around false rest := by
  cases k with
  | one k => exact Scalar.skipOpen_of_read h around
  | exactly size k =>
    simp only [read] at h
    split at h
    · cases h
    · next hopen =>
      split at h
      · cases h
      · next hitems =>
        obtain ⟨hclose, -⟩ := map_left_eq_ok h
        rw [skipOpen_of_openList hopen]
        exact (skipItems_of_readExactly hitems).trans (skipItems_of_closeList hclose)
  | many k =>
    simp only [read] at h
    split at h
    · cases h
    · next hopen =>
      split at h
      · cases h
      · next hitems =>
        obtain ⟨first, hfirst⟩ := skipItems_of_readMany hitems
        obtain ⟨hclose, -⟩ := map_left_eq_ok h
        rw [skipOpen_of_openList hopen]
        exact hfirst.trans (skipItems_of_closeList hclose)

/-- A reader that takes a value takes all of it. -/
theorem Shape.rest_of_read {k : Shape} {x : k.Value} {rest' : List Char} (hv : IsValue v)
    (a : Blanks) (hrest : endsNumber rest = true)
    (h : k.read (a.text ++ (v ++ rest)) = .ok (x, rest')) : rest' = rest := by
  have hskip : skipValue (a.text ++ (v ++ rest)) = .ok rest' := by
    rw [skipValue, Shape.skipOpen_of_read h, skipItems_nil]
  rw [skipValue_append hv a hrest, Except.ok.injEq] at hskip
  exact hskip.symm

end Chip8.Json

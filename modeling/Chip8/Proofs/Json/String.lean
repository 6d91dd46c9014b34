-- SUMMARY: Strings are read as what they spell, and skipped by their form alone.
import Chip8.Proofs.Json.Grammar

/-! # Reading and skipping strings

The two readers of strings against the two views of a string: one answers with
what the string spells, if it spells anything, the other with what comes behind
its closing quote. -/

namespace Chip8.Json

variable {s t hex after rest : List Char} {n : Nat} {c d : Char}

/-! ## Escapes -/

theorem readHex4_append (h : IsHex hex n) (rest : List Char) :
    readHex4 (hex ++ rest) = .ok (n, rest) := by
  cases h with
  | mk ha hb hc hd => simp [readHex4, ha, hb, hc, hd]

theorem ne_of_plainEscape (h : plainEscape? c = some d) : c ≠ 'u' := by
  rintro rfl
  cases h

theorem skipEscape_plain (h : plainEscape? c = some d) (rest : List Char) :
    skipEscape (c :: rest) = .ok rest := by
  simp [skipEscape, ne_of_plainEscape h, h]

theorem skipEscape_unicode (h : IsHex hex n) (rest : List Char) :
    skipEscape ('u' :: (hex ++ rest)) = .ok rest := by
  simp [skipEscape, readHex4_append h, Except.map]

theorem readEscape_plain (h : plainEscape? c = some d) (rest : List Char) :
    readEscape (c :: rest) = .ok (d, rest) := by
  simp [readEscape, ne_of_plainEscape h, h]

theorem readEscape_unicode (h : IsHex hex n) (rest : List Char) :
    readEscape ('u' :: (hex ++ rest)) =
      if isLowSurrogate n then .error .loneSurrogate
      else if isHighSurrogate n then readLowSurrogate n rest
      else .ok (Char.ofNat n, rest) := by
  simp [readEscape, readCodePoint, readHex4_append h]

theorem readLowSurrogate_unicode (h : IsHex hex n) (high : Nat) (rest : List Char) :
    readLowSurrogate high ('\\' :: 'u' :: (hex ++ rest)) =
      if isLowSurrogate n then .ok (joinSurrogates high n, rest) else .error .loneSurrogate := by
  simp [readLowSurrogate, readHex4_append h]

/-! ## One character -/

theorem readStringFrom_escape (h : readEscape s = .ok (d, after)) (sofar : List Char) :
    readStringFrom sofar ('\\' :: s) = readStringFrom (d :: sofar) after := by
  rw [readStringFrom]
  simp only [Char.reduceEq, if_false, if_true]
  split
  · next heq => simp [h] at heq
  · next heq =>
    simp only [h, Except.ok.injEq, Prod.mk.injEq] at heq
    obtain ⟨rfl, rfl⟩ := heq
    rfl

theorem readStringFrom_bad {fault : Fault} (h : readEscape s = .error fault)
    (sofar : List Char) : readStringFrom sofar ('\\' :: s) = .error fault := by
  rw [readStringFrom]
  simp only [Char.reduceEq, if_false, if_true]
  split
  · next heq =>
    simp only [h, Except.error.injEq] at heq
    rw [heq]
  · next heq => simp [h] at heq

theorem readStringFrom_cons (h : isPlain c = true) (sofar s : List Char) :
    readStringFrom sofar (c :: s) = readStringFrom (c :: sofar) s := by
  simp only [isPlain, Bool.and_eq_true, bne_iff_ne, ne_eq, Bool.not_eq_true'] at h
  rw [readStringFrom]
  simp only [h.1.1, h.1.2, h.2, if_false, Bool.false_eq_true]

theorem readStringFrom_quote (sofar rest : List Char) :
    readStringFrom sofar ('"' :: rest) = .ok (String.ofList sofar.reverse, rest) := by
  rw [readStringFrom]
  simp

theorem skipString_escape (h : skipEscape s = .ok after) :
    skipString ('\\' :: s) = skipString after := by
  rw [skipString]
  simp only [Char.reduceEq, if_false, if_true]
  split
  · next heq => simp [h] at heq
  · next heq =>
    simp only [h, Except.ok.injEq] at heq
    rw [heq]

theorem skipString_cons (h : isPlain c = true) (s : List Char) :
    skipString (c :: s) = skipString s := by
  simp only [isPlain, Bool.and_eq_true, bne_iff_ne, ne_eq, Bool.not_eq_true'] at h
  rw [skipString]
  simp only [h.1.1, h.1.2, h.2, if_false, Bool.false_eq_true]

theorem skipString_quote (rest : List Char) : skipString ('"' :: rest) = .ok rest := by
  rw [skipString]
  simp

/-! ## Whole strings -/

/-- A string is skipped up to its closing quote. -/
theorem skipString_append (h : IsString s) (rest : List Char) :
    skipString (s ++ '"' :: rest) = .ok rest := by
  induction h with
  | nil => exact skipString_quote rest
  | plain hc _ ih => rw [List.cons_append, skipString_cons hc, ih]
  | escape hc _ ih =>
    rw [List.cons_append, List.cons_append, skipString_escape (skipEscape_plain hc _), ih]
  | unicode hhex _ ih =>
    rw [List.cons_append, List.cons_append, List.append_assoc,
      skipString_escape (skipEscape_unicode hhex _), ih]

/-- A string that spells a text is read as that text. -/
theorem readStringFrom_append (h : Spells s t) (sofar rest : List Char) :
    readStringFrom sofar (s ++ '"' :: rest) = .ok (String.ofList (sofar.reverse ++ t), rest) := by
  induction h generalizing sofar with
  | nil => simp [readStringFrom_quote]
  | plain hc _ ih => simp [readStringFrom_cons hc, ih]
  | escape hc _ ih => simp [readStringFrom_escape (readEscape_plain hc _), ih]
  | @unicode hex s t n hhex hlow hhigh _ ih =>
    have hescape : readEscape ('u' :: (hex ++ (s ++ '"' :: rest))) =
        .ok (Char.ofNat n, s ++ '"' :: rest) := by
      simp [readEscape_unicode hhex, hlow, hhigh]
    simp [readStringFrom_escape hescape, ih]
  | @pair hex hex' s t high low hhex hhigh hhex' hlow _ ih =>
    have hnotlow : isLowSurrogate high = false := by
      simp only [isHighSurrogate, isLowSurrogate, Bool.and_eq_true, decide_eq_true_eq,
        Bool.and_eq_false_iff, decide_eq_false_iff_not] at hhigh ⊢
      omega
    have hescape : readEscape ('u' :: (hex ++ '\\' :: 'u' :: (hex' ++ (s ++ '"' :: rest)))) =
        .ok (joinSurrogates high low, s ++ '"' :: rest) := by
      simp [readEscape_unicode hhex, hnotlow, hhigh, readLowSurrogate_unicode hhex', hlow]
    simp [readStringFrom_escape hescape, ih]

theorem readString_append (h : Spells s t) (rest : List Char) :
    readString (s ++ '"' :: rest) = .ok (String.ofList t, rest) := by
  simpa [readString] using readStringFrom_append h [] rest

/-- A low surrogate is read from one more escape of the string. -/
theorem readLowSurrogate_eq_ok {high : Nat} (hs : IsString s)
    (h : readLowSurrogate high (s ++ '"' :: rest) = .ok (c, after)) :
    ∃ hex low s', s = '\\' :: 'u' :: (hex ++ s') ∧ IsHex hex low ∧ isLowSurrogate low = true ∧
      IsString s' ∧ c = joinSurrogates high low ∧ after = s' ++ '"' :: rest := by
  cases hs with
  | nil => simp [readLowSurrogate] at h
  | @plain d s' hd _ =>
    have hne : d ≠ '\\' := by
      rintro rfl
      cases hd
    simp [readLowSurrogate, hne] at h
  | escape hd _ => simp [readLowSurrogate, ne_of_plainEscape hd] at h
  | @unicode hex s' low hhex hs' =>
    rw [List.cons_append, List.cons_append, List.append_assoc,
      readLowSurrogate_unicode hhex] at h
    split at h
    · next hlow =>
      simp only [Except.ok.injEq, Prod.mk.injEq] at h
      exact ⟨hex, low, s', rfl, hhex, hlow, hs', h.1.symm, h.2.symm⟩
    · cases h

/-- What is read from a string is what it spells. -/
theorem spells_of_readStringFrom {sofar rest' : List Char} {text : String} (hs : IsString s)
    (h : readStringFrom sofar (s ++ '"' :: rest) = .ok (text, rest')) :
    ∃ t, Spells s t ∧ text = String.ofList (sofar.reverse ++ t) ∧ rest' = rest := by
  -- the second half of a surrogate pair lies deeper in the string than one character
  induction hn : s.length using Nat.strongRecOn generalizing s sofar with
  | ind k ih =>
    subst hn
    have hbehind : ∀ {c : Char} {s' : List Char}, s'.length < s.length → IsString s' →
        readStringFrom (c :: sofar) (s' ++ '"' :: rest) = .ok (text, rest') →
        ∃ t, Spells s' t ∧ text = String.ofList (sofar.reverse ++ c :: t) ∧ rest' = rest := by
      intro c s' hshort hs' h'
      obtain ⟨t, ht, htext, hrest⟩ := ih s'.length hshort hs' h' rfl
      refine ⟨t, ht, ?_, hrest⟩
      rw [htext, List.reverse_cons, List.append_assoc, List.singleton_append]
    cases hs with
    | nil =>
      rw [List.nil_append, readStringFrom_quote, Except.ok.injEq, Prod.mk.injEq] at h
      exact ⟨[], .nil, by rw [← h.1, List.append_nil], h.2.symm⟩
    | @plain c s hc hs =>
      rw [List.cons_append, readStringFrom_cons hc] at h
      obtain ⟨t, ht, hread⟩ := hbehind (by simp) hs h
      exact ⟨c :: t, .plain hc ht, hread⟩
    | @escape c d s hc hs =>
      rw [List.cons_append, List.cons_append, readStringFrom_escape (readEscape_plain hc _)] at h
      obtain ⟨t, ht, hread⟩ := hbehind (by simp only [List.length_cons]; omega) hs h
      exact ⟨d :: t, .escape hc ht, hread⟩
    | @unicode hex s n hhex hs =>
      rw [List.cons_append, List.cons_append, List.append_assoc] at h
      have hescape := readEscape_unicode hhex (s ++ '"' :: rest)
      split at hescape
      · rw [readStringFrom_bad hescape] at h
        cases h
      · next hlow =>
        split at hescape
        · next hhigh =>
          cases hpair : readLowSurrogate n (s ++ '"' :: rest) with
          | error fault =>
            rw [readStringFrom_bad (hescape.trans hpair)] at h
            cases h
          | ok p =>
            obtain ⟨c, after⟩ := p
            obtain ⟨hex', low, s', rfl, hhex', hlow', hs', hc, hafter⟩ :=
              readLowSurrogate_eq_ok hs hpair
            rw [readStringFrom_escape (hescape.trans hpair), hc, hafter] at h
            obtain ⟨t, ht, hread⟩ := hbehind (by simp only [List.length_append, List.length_cons]; omega) hs' h
            exact ⟨_ :: t, .pair hhex hhigh hhex' hlow' ht, hread⟩
        · next hhigh =>
          rw [readStringFrom_escape hescape] at h
          obtain ⟨t, ht, hread⟩ := hbehind (by simp only [List.length_append, List.length_cons]; omega) hs h
          exact ⟨_ :: t, .unicode hhex (by simpa using hlow) (by simpa using hhigh) ht, hread⟩

theorem spells_of_readString {rest' : List Char} {text : String} (hs : IsString s)
    (h : readString (s ++ '"' :: rest) = .ok (text, rest')) :
    Spells s text.toList ∧ rest' = rest := by
  obtain ⟨t, ht, rfl, hrest⟩ := spells_of_readStringFrom hs h
  rw [String.toList_ofList, List.reverse_nil, List.nil_append]
  exact ⟨ht, hrest⟩

/-- A string spells one text at most. -/
theorem Spells.unique {t' : List Char} (h : Spells s t) (h' : Spells s t') : t = t' := by
  have hread := (readString_append h []).symm.trans (readString_append h' [])
  simp only [Except.ok.injEq, Prod.mk.injEq, and_true] at hread
  simpa using congrArg String.toList hread

/-- What spells a text has the form of a string. -/
theorem Spells.isString (h : Spells s t) : IsString s := by
  induction h with
  | nil => exact .nil
  | plain hc _ ih => exact .plain hc ih
  | escape hc _ ih => exact .escape hc ih
  | unicode hhex _ _ _ ih => exact .unicode hhex ih
  | pair hhex _ hhex' _ _ ih => exact .unicode hhex (.unicode hhex' ih)

/-- A text of plain characters spells itself. -/
theorem spells_self (h : ∀ c ∈ s, isPlain c = true) : Spells s s := by
  induction s with
  | nil => exact .nil
  | cons c s ih =>
    exact .plain (h c List.mem_cons_self) (ih fun d hd => h d (List.mem_cons_of_mem c hd))

end Chip8.Json

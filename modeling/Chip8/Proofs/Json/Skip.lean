-- SUMMARY: Skipping a value takes exactly its text, however deep it is nested.
import Chip8.Json.Skip
import Chip8.Proofs.Json.String

/-! # Skipping values

Values that nobody asked for are skipped by a machine with a list of open
brackets. Each move of the machine has its equation here; followed along the
grammar they say that a value is taken whole and nothing behind it. -/

namespace Chip8.Json

variable {s t v rest after : List Char} {c : Char} {around outer : List Bracket} {b : Bracket}
  {first : Bool}

/-! ## Blanks -/

def Blanks.none : Blanks := ⟨[], by simp⟩

@[simp] theorem Blanks.text_none : Blanks.none.text = [] := rfl

/-- Blanks in front make no difference to what is left without them. -/
theorem skipBlanks_append (a : Blanks) (s : List Char) :
    skipBlanks (a.text ++ s) = skipBlanks s :=
  List.dropWhile_append_of_pos a.blank

theorem skipBlanks_blanks (a : Blanks) : skipBlanks a.text = [] := by
  simpa [skipBlanks] using skipBlanks_append a []

/-- What is left without blanks does not start with one. -/
theorem skipBlanks_of_eq (hs : skipBlanks s = c :: t) : skipBlanks (c :: t) = c :: t := by
  have hc : isBlank c = false := by
    have hhead := List.head?_dropWhile_not isBlank s
    rw [skipBlanks] at hs
    simpa [hs] using hhead
  exact skipBlanks_cons hc

/-- A number ends at blanks as it ends at what is behind them. -/
theorem endsNumber_append (a : Blanks) (h : endsNumber s = true) :
    endsNumber (a.text ++ s) = true := by
  obtain ⟨text, hblank⟩ := a
  cases text with
  | nil => exact h
  | cons c text =>
    have hc : isBlank c = true := hblank c List.mem_cons_self
    simp only [isBlank, Bool.or_eq_true, beq_iff_eq] at hc
    rcases hc with ((rfl | rfl) | rfl) | rfl <;> rfl

/-! ## Numbers -/

theorem startsWithDigit_append (hs : IsDigits s) (rest : List Char) :
    startsWithDigit (s ++ rest) = true := by
  cases s with
  | nil => exact absurd rfl hs.nonempty
  | cons c s => exact hs.digits c List.mem_cons_self

theorem skipDigits_append (hs : ∀ c ∈ s, c.isDigit = true) (hrest : startsWithDigit rest = false) :
    skipDigits (s ++ rest) = rest := by
  rw [skipDigits, List.dropWhile_append_of_pos hs]
  cases rest with
  | nil => rfl
  | cons c rest =>
    have hc : c.isDigit = false := hrest
    simp [hc]

theorem skipExponent_append {sign : List Char} (hsign : IsSign sign) (hs : IsDigits s)
    (hrest : startsWithDigit rest = false) : skipExponent (sign ++ (s ++ rest)) = .ok rest := by
  have hdigits : (exponentSign (sign ++ (s ++ rest))).2 = s ++ rest := by
    cases hsign with
    | none =>
      obtain ⟨c, s, rfl⟩ := List.exists_cons_of_ne_nil hs.nonempty
      have hc := hs.digits c List.mem_cons_self
      have hplus : c ≠ '+' := by
        rintro rfl
        cases hc
      have hminus : c ≠ '-' := by
        rintro rfl
        cases hc
      simp [exponentSign, hplus, hminus]
    | plus => rfl
    | minus => rfl
  rw [skipExponent, hdigits]
  simp only [startsWithDigit_append hs, if_true, skipDigits_append hs.digits hrest]

theorem skipOptionalExponent_append (h : IsExponent s) (hrest : endsNumber rest = true) :
    skipOptionalExponent (s ++ rest) = .ok rest := by
  cases h with
  | none =>
    cases rest with
    | nil => rfl
    | cons c rest =>
      simp only [endsNumber, Bool.not_eq_true', Bool.or_eq_false_iff] at hrest
      simp [skipOptionalExponent, hrest.2]
  | @digits c sign s hmark hsign hs =>
    have hc : isExponentMark c = true := by simpa [isExponentMark] using hmark
    have hskip := skipExponent_append hsign hs (startsWithDigit_of_endsNumber hrest)
    simpa [skipOptionalExponent, hc] using hskip

theorem startsWithDigit_exponent (h : IsExponent s) (hrest : endsNumber rest = true) :
    startsWithDigit (s ++ rest) = false := by
  cases h with
  | none => exact startsWithDigit_of_endsNumber hrest
  | digits hmark => rcases hmark with rfl | rfl <;> rfl

/-- What may follow the digits of a number is taken whole. -/
theorem skipAfterDigits_append {fraction exponent : List Char} (hfraction : IsFraction fraction)
    (hexponent : IsExponent exponent) (hrest : endsNumber rest = true) :
    skipAfterDigits (fraction ++ (exponent ++ rest)) = .ok rest := by
  have hskip := skipOptionalExponent_append hexponent hrest
  cases hfraction with
  | none =>
    rw [List.nil_append]
    cases htext : exponent ++ rest with
    | nil =>
      rw [htext] at hskip
      exact hskip
    | cons c more =>
      have hc : c ≠ '.' := by
        rintro rfl
        cases hexponent with
        | none =>
          rw [List.nil_append] at htext
          rw [htext] at hrest
          cases hrest
        | digits hmark =>
          rw [List.cons_append, List.cons.injEq] at htext
          rcases hmark with rfl | rfl <;> exact absurd htext.1 (by decide)
      rw [← htext, ← hskip, htext, skipAfterDigits, if_neg hc]
  | @digits s hs =>
    have hstop := startsWithDigit_exponent hexponent hrest
    rw [List.cons_append, skipAfterDigits, if_pos rfl, skipFraction,
      if_pos (startsWithDigit_append hs _), skipDigits_append hs.digits hstop, hskip]

theorem startsWithDigit_fraction {fraction exponent : List Char} (hfraction : IsFraction fraction)
    (hexponent : IsExponent exponent) (hrest : endsNumber rest = true) :
    startsWithDigit (fraction ++ (exponent ++ rest)) = false := by
  cases hfraction with
  | none =>
    rw [List.nil_append]
    exact startsWithDigit_exponent hexponent hrest
  | digits => rfl

theorem skipUnsigned_append (h : IsUnsigned s) (hrest : endsNumber rest = true) :
    skipUnsigned (s ++ rest) = .ok rest := by
  obtain ⟨hwhole, hfraction, hexponent⟩ := h
  have hstop := startsWithDigit_fraction hfraction hexponent hrest
  have hskip := skipAfterDigits_append hfraction hexponent hrest
  simp only [List.append_assoc]
  cases hwhole with
  | zero => simp [skipUnsigned, hstop, hskip]
  | @digits c s hzero hs =>
    have hc : c.isDigit = true := hs c List.mem_cons_self
    have htail : ∀ d ∈ s, d.isDigit = true := fun d hd => hs d (List.mem_cons_of_mem c hd)
    rw [List.cons_append, skipUnsigned, if_neg hzero, if_pos hc, skipDigits_append htail hstop,
      hskip]

/-- A number without sign starts with a digit. -/
theorem IsUnsigned.head (h : IsUnsigned s) : ∃ c t, s = c :: t ∧ c.isDigit = true := by
  obtain ⟨hwhole, -, -⟩ := h
  cases hwhole with
  | zero => exact ⟨'0', _, rfl, rfl⟩
  | digits _ hs => exact ⟨_, _, rfl, hs _ List.mem_cons_self⟩

theorem skipNumber_append (h : IsNumber s) (hrest : endsNumber rest = true) :
    skipNumber (s ++ rest) = .ok rest := by
  cases h with
  | positive h =>
    obtain ⟨c, t, rfl, hc⟩ := h.head
    have hminus : c ≠ '-' := by
      rintro rfl
      cases hc
    have hskip := skipUnsigned_append h hrest
    unfold skipNumber
    split
    · next heq =>
      rw [List.cons_append, List.cons.injEq] at heq
      exact absurd heq.1 hminus
    · exact hskip
  | negative h => exact skipUnsigned_append h hrest

/-- A number starts with a digit or its sign. -/
theorem IsNumber.head (h : IsNumber s) : ∃ c t, s = c :: t ∧ (c = '-' ∨ c.isDigit = true) := by
  cases h with
  | positive h =>
    obtain ⟨c, t, rfl, hc⟩ := h.head
    exact ⟨c, t, rfl, .inr hc⟩
  | negative => exact ⟨'-', _, rfl, .inl rfl⟩

/-! ## Moves -/

theorem skipOpen_eq (around : List Bracket) (s : List Char) :
    skipOpen around s =
      match skipBlanks s with
      | [] => .error .endInValue
      | c :: rest =>
        if c = '[' then skipItems (.list :: around) true rest
        else if c = '\x7b' then skipItems (.object :: around) true rest
        else
          match skipAtom c rest with
          | .error e => .error e
          | .ok after => skipItems around false after := by
  rw [skipOpen]
  split
  · next heq => simp only [heq]
  · next c rest heq =>
    simp only [heq]
    cases skipAtom c rest <;> rfl

theorem skipItems_eq (b : Bracket) (outer : List Bracket) (first : Bool) (s : List Char) :
    skipItems (b :: outer) first s =
      match skipBlanks s with
      | [] => .error b.atEnd
      | c :: rest =>
        if c = b.closing then skipItems outer false rest
        else if first then skipMember b (b :: outer) (c :: rest)
        else if c = ',' then skipMember b (b :: outer) rest
        else .error b.noComma := by
  rw [skipItems]
  split <;> next heq => simp only [heq]

theorem skipOpen_atom (hs : skipBlanks s = c :: t) (hlist : c ≠ '[') (hobject : c ≠ '\x7b')
    (hatom : skipAtom c t = .ok after) (around : List Bracket) :
    skipOpen around s = skipItems around false after := by
  simp only [skipOpen_eq, hs, hlist, hobject, if_false, hatom]

theorem skipOpen_list (hs : skipBlanks s = '[' :: t) (around : List Bracket) :
    skipOpen around s = skipItems (.list :: around) true t := by
  simp only [skipOpen_eq, hs, if_true]

theorem skipOpen_object (hs : skipBlanks s = '\x7b' :: t) (around : List Bracket) :
    skipOpen around s = skipItems (.object :: around) true t := by
  simp only [skipOpen_eq, hs, Char.reduceEq, if_false, if_true]

theorem skipItems_nil (first : Bool) (s : List Char) : skipItems [] first s = .ok s := by
  rw [skipItems]

theorem skipItems_close (hs : skipBlanks s = b.closing :: t) :
    skipItems (b :: outer) first s = skipItems outer false t := by
  simp only [skipItems_eq, hs, if_true]

theorem skipItems_first (hs : skipBlanks s = c :: t) (hc : c ≠ b.closing) :
    skipItems (b :: outer) true s = skipMember b (b :: outer) (c :: t) := by
  simp only [skipItems_eq, hs, hc, if_false, if_true]

theorem skipItems_comma (hs : skipBlanks s = ',' :: t) :
    skipItems (b :: outer) false s = skipMember b (b :: outer) t := by
  have hc : ',' ≠ b.closing := by cases b <;> decide
  simp only [skipItems_eq, hs, hc, if_false, if_true, Bool.false_eq_true]

/-- Blanks between two items make no difference. -/
theorem skipItems_append (a : Blanks) (s : List Char) :
    skipItems (b :: outer) first (a.text ++ s) = skipItems (b :: outer) first s := by
  rw [skipItems_eq, skipItems_eq, skipBlanks_append]

theorem skipMember_list (around : List Bracket) (s : List Char) :
    skipMember .list around s = skipOpen around s := by
  rw [skipMember]

theorem skipMember_object (hname : skipName s = .ok after) (around : List Bracket) :
    skipMember .object around s = skipOpen around after := by
  rw [skipMember]
  split
  · next heq => simp [hname] at heq
  · next heq =>
    rw [hname, Except.ok.injEq] at heq
    rw [heq]

/-! ## Items and members -/

theorem commaSeparated_cons (t : List Char) (ts : List (List Char)) :
    commaSeparated (t :: ts) = t ++ ts.flatMap (',' :: ·) := by
  induction ts generalizing t with
  | nil => simp [commaSeparated]
  | cons u ts ih =>
    have hcons := ih u
    rw [commaSeparated] at hcons ⊢
    rw [List.intercalate_cons_cons, hcons]
    simp

/-- Whether a text may stand between commas inside of a bracket: it starts, behind
    blanks, with something else than the closing bracket, and is skipped whole. -/
structure Skippable (b : Bracket) (t : List Char) : Prop where
  head : ∀ rest, ∃ c s, skipBlanks (t ++ rest) = c :: s ∧ c ≠ b.closing
  skip : ∀ outer s rest, endsNumber rest = true → skipBlanks s = skipBlanks (t ++ rest) →
    skipMember b (b :: outer) s = skipItems (b :: outer) false rest

theorem endsNumber_comma (ts : List (List Char)) (b : Bracket) (rest : List Char) :
    endsNumber (ts.flatMap (',' :: ·) ++ b.closing :: rest) = true := by
  cases ts with
  | nil => cases b <;> rfl
  | cons t ts => rfl

/-- The texts behind the first one are skipped up to the closing bracket. -/
theorem skipItems_more {ts : List (List Char)} (hts : ∀ t ∈ ts, Skippable b t)
    (outer : List Bracket) (rest : List Char) :
    skipItems (b :: outer) false (ts.flatMap (',' :: ·) ++ b.closing :: rest) =
      skipItems outer false rest := by
  have hclosing : isBlank b.closing = false := by cases b <;> rfl
  induction ts with
  | nil => exact skipItems_close (skipBlanks_cons hclosing)
  | cons t ts ih =>
    have ht := hts t List.mem_cons_self
    have hcomma : skipBlanks ((t :: ts).flatMap (',' :: ·) ++ b.closing :: rest) =
        ',' :: (t ++ (ts.flatMap (',' :: ·) ++ b.closing :: rest)) := by
      have hblank : isBlank ',' = false := rfl
      simp [hblank]
    rw [skipItems_comma hcomma, ht.skip outer _ _ (endsNumber_comma ts b rest) rfl]
    exact ih fun u hu => hts u (List.mem_cons_of_mem t hu)

/-- All that stands inside of a bracket is skipped. -/
theorem skipItems_all {ts : List (List Char)} (hts : ∀ t ∈ ts, Skippable b t) (pad : Blanks)
    (outer : List Bracket) (rest : List Char) :
    skipItems (b :: outer) true (pad.text ++ (commaSeparated ts ++ b.closing :: rest)) =
      skipItems outer false rest := by
  have hclosing : isBlank b.closing = false := by cases b <;> rfl
  cases ts with
  | nil =>
    have hclose : skipBlanks (pad.text ++ (commaSeparated [] ++ b.closing :: rest)) =
        b.closing :: rest := by
      rw [skipBlanks_append]
      exact skipBlanks_cons hclosing
    exact skipItems_close hclose
  | cons t ts =>
    have ht := hts t List.mem_cons_self
    obtain ⟨c, s, hhead, hc⟩ := ht.head (ts.flatMap (',' :: ·) ++ b.closing :: rest)
    have hfirst : skipBlanks (pad.text ++ (commaSeparated (t :: ts) ++ b.closing :: rest)) =
        c :: s := by
      rw [skipBlanks_append, commaSeparated_cons, List.append_assoc, hhead]
    have hsame := (skipBlanks_of_eq hfirst).trans hhead.symm
    rw [skipItems_first hfirst hc, ht.skip outer _ _ (endsNumber_comma ts b rest) hsame]
    exact skipItems_more (fun u hu => hts u (List.mem_cons_of_mem t hu)) outer rest

/-! ## Values -/

/-- Whether a character may be the first one of a value. -/
def startsValue (c : Char) : Bool :=
  c ∈ ['n', 't', 'f', '"', '[', '\x7b', '-'] || c.isDigit

theorem isBlank_of_startsValue (h : startsValue c = true) : isBlank c = false := by
  simp only [isBlank, Bool.or_eq_false_iff, beq_eq_false_iff_ne]
  refine ⟨⟨⟨?_, ?_⟩, ?_⟩, ?_⟩ <;> rintro rfl <;> cases h

theorem ne_closing_of_startsValue (h : startsValue c = true) (b : Bracket) : c ≠ b.closing := by
  rintro rfl
  cases b <;> cases h

theorem IsValue.head (hv : IsValue v) : ∃ c t, v = c :: t ∧ startsValue c = true := by
  cases hv with
  | number h =>
    obtain ⟨c, t, rfl, hc⟩ := h.head
    refine ⟨c, t, rfl, ?_⟩
    rcases hc with rfl | hc
    · rfl
    · simp [startsValue, hc]
  | null | yes | no | string | list | object => exact ⟨_, _, rfl, rfl⟩

/-- No blanks are skipped at the start of a value. -/
theorem IsValue.skipBlanks_eq (hv : IsValue v) (rest : List Char) :
    skipBlanks (v ++ rest) = v ++ rest := by
  obtain ⟨c, t, rfl, hc⟩ := hv.head
  exact skipBlanks_cons (isBlank_of_startsValue hc)

/-- A value that is skipped whole, wherever it stands. -/
def SkipsWhole (v : List Char) : Prop :=
  ∀ around s rest, endsNumber rest = true → skipBlanks s = v ++ rest →
    skipOpen around s = skipItems around false rest

theorem skippable_item {i : Item} (hi : IsValue i.core) (hwhole : SkipsWhole i.core) :
    Skippable .list i.text where
  head rest := by
    obtain ⟨c, t, hcore, hc⟩ := hi.head
    refine ⟨c, t ++ (i.after.text ++ rest), ?_, ne_closing_of_startsValue hc .list⟩
    have hblanks := hi.skipBlanks_eq (i.after.text ++ rest)
    rw [Item.text, List.append_assoc, List.append_assoc, skipBlanks_append, hblanks, hcore,
      List.cons_append]
  skip outer s rest hrest hs := by
    have hblanks : skipBlanks s = i.core ++ (i.after.text ++ rest) := by
      rw [hs, Item.text, List.append_assoc, List.append_assoc, skipBlanks_append, hi.skipBlanks_eq]
    rw [skipMember_list, hwhole _ _ _ (endsNumber_append i.after hrest) hblanks, skipItems_append]

theorem skippable_member {m : Member} (hname : IsString m.name) (hvalue : IsValue m.value.core)
    (hwhole : SkipsWhole m.value.core) : Skippable .object m.text where
  head rest := by
    refine ⟨'"', m.behindQuote ++ rest, ?_, by decide⟩
    rw [Member.text, List.append_assoc, skipBlanks_append]
    exact skipBlanks_cons rfl
  skip outer s rest hrest hs := by
    have hquote : skipBlanks s = '"' :: (m.behindQuote ++ rest) := by
      rw [hs, Member.text, List.append_assoc, skipBlanks_append]
      exact skipBlanks_cons rfl
    have hskip : skipName s = .ok (m.value.text ++ rest) := by
      have hstring := skipString_append hname (m.after.text ++ ':' :: (m.value.text ++ rest))
      have hcolon : skipBlanks (m.after.text ++ ':' :: (m.value.text ++ rest)) =
          ':' :: (m.value.text ++ rest) := by
        rw [skipBlanks_append]
        exact skipBlanks_cons rfl
      simp [skipName, hquote, Member.behindQuote, hstring, readColon, hcolon]
    have hblanks : skipBlanks (m.value.text ++ rest) =
        m.value.core ++ (m.value.after.text ++ rest) := by
      rw [Item.text, List.append_assoc, List.append_assoc, skipBlanks_append, hvalue.skipBlanks_eq]
    rw [skipMember_object hskip, hwhole _ _ _ (endsNumber_append m.value.after hrest) hblanks,
      skipItems_append]

/-- A value that starts with no bracket is skipped as an atom. -/
theorem skipsWhole_of_atom {c : Char} {t : List Char} (hlist : c ≠ '[') (hobject : c ≠ '\x7b')
    (hatom : ∀ rest, endsNumber rest = true → skipAtom c (t ++ rest) = .ok rest) :
    SkipsWhole (c :: t) := by
  intro around s rest hrest hs
  exact skipOpen_atom hs hlist hobject (hatom rest hrest) around

theorem skipsWhole_number (h : IsNumber v) : SkipsWhole v := by
  obtain ⟨c, t, rfl, hc⟩ := h.head
  have hfirst : c ≠ 'n' ∧ c ≠ 't' ∧ c ≠ 'f' ∧ c ≠ '"' ∧ c ≠ '[' ∧ c ≠ '\x7b' := by
    refine ⟨?_, ?_, ?_, ?_, ?_, ?_⟩ <;> rintro rfl <;> exact absurd hc (by decide)
  obtain ⟨hn, ht, hf, hquote, hlist, hobject⟩ := hfirst
  refine skipsWhole_of_atom hlist hobject ?_
  intro rest hrest
  have hskip : skipNumber (c :: (t ++ rest)) = .ok rest := skipNumber_append h hrest
  simp [skipAtom, hn, ht, hf, hquote, hc, hskip]

/-- Every value is skipped whole: of any depth, inside of any brackets and whatever
    comes behind it, if that does not go on with a number. -/
theorem IsValue.skipsWhole (hv : IsValue v) : SkipsWhole v := by
  induction hv with
  | null | yes | no =>
    refine skipsWhole_of_atom (by decide) (by decide) ?_
    intro rest _
    simp [skipAtom, readWord]
  | number h => exact skipsWhole_number h
  | string h =>
    refine skipsWhole_of_atom (by decide) (by decide) ?_
    intro rest _
    simpa [skipAtom] using skipString_append h rest
  | list pad items hitems ih =>
    intro around s rest hrest hs
    have hskippable : ∀ t ∈ items.map Item.text, Skippable .list t := by
      intro t ht
      obtain ⟨i, hi, rfl⟩ := List.mem_map.1 ht
      exact skippable_item (hitems i hi) (ih i hi)
    have hall := skipItems_all hskippable pad around rest
    rw [skipOpen_list hs, ← hall]
    simp [Bracket.closing]
  | object pad members hnames hvalues ih =>
    intro around s rest hrest hs
    have hskippable : ∀ t ∈ members.map Member.text, Skippable .object t := by
      intro t ht
      obtain ⟨m, hm, rfl⟩ := List.mem_map.1 ht
      exact skippable_member (hnames m hm) (hvalues m hm) (ih m hm)
    have hall := skipItems_all hskippable pad around rest
    rw [skipOpen_object hs, ← hall]
    simp [Bracket.closing]

/-- A value behind blanks is skipped whole. -/
theorem skipValue_append (hv : IsValue v) (a : Blanks) (hrest : endsNumber rest = true) :
    skipValue (a.text ++ (v ++ rest)) = .ok rest := by
  have hs : skipBlanks (a.text ++ (v ++ rest)) = v ++ rest := by
    rw [skipBlanks_append, hv.skipBlanks_eq]
  rw [skipValue, hv.skipsWhole [] _ rest hrest hs, skipItems_nil]

end Chip8.Json

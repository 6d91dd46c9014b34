import Chip8.Json.Fault

/-! # Blanks, words and strings

The smallest readers of a JSON text. Each takes the characters that are left
and answers with what it read and the characters after it. A string can be read
for its value, where surrogate escapes have to pair up, or skipped, where their
form is all that counts. -/

namespace Chip8.Json

def isBlank (c : Char) : Bool := c == ' ' || c == '\n' || c == '\t' || c == '\r'

def skipBlanks (s : List Char) : List Char := s.dropWhile isBlank

theorem skipBlanks_length (s : List Char) : (skipBlanks s).length ≤ s.length :=
  (List.dropWhile_suffix _).length_le

/-- The characters behind the first one that is not blank are fewer. -/
theorem skipBlanks_cons_length {s rest : List Char} {c : Char} (h : skipBlanks s = c :: rest) :
    rest.length < s.length := by
  have hblanks := skipBlanks_length s
  rw [h, List.length_cons] at hblanks
  exact hblanks

/-- The rest of a word whose first letter was seen. -/
def readWord : List Char → List Char → Except Fault (List Char)
  | [], s => .ok s
  | _ :: _, [] => .error .endInValue
  | w :: ws, c :: s => if c = w then readWord ws s else .error .wordExpected

theorem readWord_length {word s rest : List Char} (h : readWord word s = .ok rest) :
    rest.length ≤ s.length := by
  induction word generalizing s with
  | nil =>
    cases h
    exact Nat.le_refl _
  | cons w ws ih =>
    cases s with
    | nil => cases h
    | cons c s =>
      simp only [readWord] at h
      split at h
      · exact Nat.le_succ_of_le (ih h)
      · cases h

/-! ## Escapes -/

def hexValue? (c : Char) : Option Nat :=
  if '0' ≤ c ∧ c ≤ '9' then some (c.toNat - '0'.toNat)
  else if 'a' ≤ c ∧ c ≤ 'f' then some (c.toNat - 'a'.toNat + 10)
  else if 'A' ≤ c ∧ c ≤ 'F' then some (c.toNat - 'A'.toNat + 10)
  else none

/-- The value of four hexadecimal digits. Fewer than four bytes are the end of
    the string rather than a bad escape. -/
def readHex4 : List Char → Except Fault (Nat × List Char)
  | a :: b :: c :: d :: rest =>
    match hexValue? a, hexValue? b, hexValue? c, hexValue? d with
    | some a, some b, some c, some d => .ok (((a * 16 + b) * 16 + c) * 16 + d, rest)
    | _, _, _, _ => .error .badEscape
  | short =>
    if 4 ≤ short.foldl (fun size c => size + c.utf8Size) 0 then .error .badEscape
    else .error .endInString

theorem readHex4_length {s rest : List Char} {n : Nat} (h : readHex4 s = .ok (n, rest)) :
    rest.length < s.length := by
  unfold readHex4 at h
  split at h
  · split at h
    · cases h
      simp only [List.length_cons]
      omega
    · cases h
  · split at h <;> cases h

/-- The character that stands for itself behind a backslash, or for a control. -/
def plainEscape? (c : Char) : Option Char :=
  match c with
  | '"' => some '"'
  | '\\' => some '\\'
  | '/' => some '/'
  | 'b' => some '\x08'
  | 'f' => some '\x0c'
  | 'n' => some '\n'
  | 'r' => some '\r'
  | 't' => some '\t'
  | _ => none

def isHighSurrogate (n : Nat) : Bool := 0xD800 ≤ n && n ≤ 0xDBFF

def isLowSurrogate (n : Nat) : Bool := 0xDC00 ≤ n && n ≤ 0xDFFF

/-- The character beyond the first 65536 that a pair of surrogates spells. -/
def joinSurrogates (high low : Nat) : Char :=
  Char.ofNat (0x10000 + (high - 0xD800) * 0x400 + (low - 0xDC00))

/-- The second half of a surrogate pair, whose first half was `high`. -/
def readLowSurrogate (high : Nat) : List Char → Except Fault (Char × List Char)
  | [] => .error .endInString
  | ['\\'] => .error .endInString
  | '\\' :: 'u' :: s =>
    match readHex4 s with
    | .error e => .error e
    | .ok (low, rest) =>
      if isLowSurrogate low then .ok (joinSurrogates high low, rest)
      else .error .loneSurrogate
  | _ => .error .halfSurrogatePair

/-- The character of an escape by number, after the letter `u`. -/
def readCodePoint (s : List Char) : Except Fault (Char × List Char) :=
  match readHex4 s with
  | .error e => .error e
  | .ok (n, rest) =>
    if isLowSurrogate n then .error .loneSurrogate
    else if isHighSurrogate n then readLowSurrogate n rest
    else .ok (Char.ofNat n, rest)

/-- The character of an escape, after its backslash. -/
def readEscape : List Char → Except Fault (Char × List Char)
  | [] => .error .endInString
  | c :: s =>
    if c = 'u' then readCodePoint s
    else match plainEscape? c with
      | some d => .ok (d, s)
      | none => .error .badEscape

theorem readLowSurrogate_length {high : Nat} {s rest : List Char} {c : Char}
    (h : readLowSurrogate high s = .ok (c, rest)) : rest.length < s.length := by
  unfold readLowSurrogate at h
  split at h
  · cases h
  · cases h
  · split at h
    · cases h
    · next low left hlow =>
      have hleft := readHex4_length hlow
      split at h
      · rw [Except.ok.injEq, Prod.mk.injEq] at h
        rw [← h.2]
        exact Nat.lt_trans hleft (Nat.lt_add_of_pos_right Nat.zero_lt_two)
      · cases h
  · cases h

theorem readCodePoint_length {s rest : List Char} {c : Char}
    (h : readCodePoint s = .ok (c, rest)) : rest.length < s.length := by
  unfold readCodePoint at h
  split at h
  · cases h
  · next n left hnumber =>
    have hleft := readHex4_length hnumber
    split at h
    · cases h
    · split at h
      · exact Nat.lt_trans (readLowSurrogate_length h) hleft
      · cases h
        exact hleft

theorem readEscape_length {s rest : List Char} {c : Char}
    (h : readEscape s = .ok (c, rest)) : rest.length < s.length := by
  unfold readEscape at h
  split at h
  · cases h
  · split at h
    · exact Nat.lt_succ_of_lt (readCodePoint_length h)
    · split at h <;> cases h
      exact Nat.lt_succ_self _

/-- An escape in a string that is not wanted: surrogates need no partner. -/
def skipEscape : List Char → Except Fault (List Char)
  | [] => .error .endInString
  | c :: s =>
    if c = 'u' then (readHex4 s).map (·.2)
    else if (plainEscape? c).isSome then .ok s
    else .error .badEscape

theorem skipEscape_length {s rest : List Char} (h : skipEscape s = .ok rest) :
    rest.length < s.length := by
  unfold skipEscape at h
  split at h
  · cases h
  · split at h
    · obtain ⟨⟨n, left⟩, hnumber, rfl⟩ := map_eq_ok_iff.1 h
      exact Nat.lt_succ_of_lt (readHex4_length hnumber)
    · split at h <;> cases h
      exact Nat.lt_succ_self _

/-! ## Strings -/

def isControl (c : Char) : Bool := c.toNat < 0x20

/-- A string up to its closing quote, after the opening one. The characters
    read so far come in reverse. -/
def readStringFrom (sofar : List Char) (s : List Char) : Except Fault (String × List Char) :=
  match s with
  | [] => .error .endInString
  | c :: rest =>
    if c = '"' then .ok (String.ofList sofar.reverse, rest)
    else if c = '\\' then
      match h : readEscape rest with
      | .error e => .error e
      | .ok (d, after) =>
        have := readEscape_length h
        readStringFrom (d :: sofar) after
    else if isControl c then .error .controlCharacter
    else readStringFrom (c :: sofar) rest
termination_by s.length

def readString (s : List Char) : Except Fault (String × List Char) := readStringFrom [] s

theorem readStringFrom_length {sofar s rest : List Char} {text : String}
    (h : readStringFrom sofar s = .ok (text, rest)) : rest.length < s.length := by
  fun_induction readStringFrom sofar s with
  | case1 => cases h
  | case2 =>
    cases h
    exact Nat.lt_succ_self _
  | case3 => cases h
  | case4 sofar s d after hescape hshorter _ ih =>
    exact Nat.lt_succ_of_lt (Nat.lt_trans (ih h) hshorter)
  | case5 => cases h
  | case6 sofar c s hquote hescape hcontrol ih => exact Nat.lt_succ_of_lt (ih h)

theorem readString_length {s rest : List Char} {text : String}
    (h : readString s = .ok (text, rest)) : rest.length < s.length :=
  readStringFrom_length h

/-- What is left after a string that is not wanted, after its opening quote. -/
def skipString (s : List Char) : Except Fault (List Char) :=
  match s with
  | [] => .error .endInString
  | c :: rest =>
    if c = '"' then .ok rest
    else if c = '\\' then
      match h : skipEscape rest with
      | .error e => .error e
      | .ok after =>
        have := skipEscape_length h
        skipString after
    else if isControl c then .error .controlCharacter
    else skipString rest
termination_by s.length

theorem skipString_length {s rest : List Char} (h : skipString s = .ok rest) :
    rest.length < s.length := by
  fun_induction skipString s with
  | case1 => cases h
  | case2 =>
    cases h
    exact Nat.lt_succ_self _
  | case3 => cases h
  | case4 s after hescape hshorter _ ih =>
    exact Nat.lt_succ_of_lt (Nat.lt_trans (ih h) hshorter)
  | case5 => cases h
  | case6 c s hquote hescape hcontrol ih => exact Nat.lt_succ_of_lt (ih h)

end Chip8.Json

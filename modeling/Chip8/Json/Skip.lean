import Chip8.Json.Number

/-! # Values that are not wanted

A value under a name that nobody asked for still has to be well formed. It is
skipped with the list of the brackets that are open around the current place,
so nesting may be of any depth. -/

namespace Chip8.Json

/-- A bracket that is open. -/
inductive Bracket where
  | list
  | object
deriving DecidableEq

namespace Bracket

def closing : Bracket → Char
  | .list => ']'
  | .object => '\x7d'

/-- The fault of a text that ends inside. -/
def atEnd : Bracket → Fault
  | .list => .endInList
  | .object => .endInObject

/-- The fault of an item followed by neither a comma nor the closing bracket. -/
def noComma : Bracket → Fault
  | .list => .listCommaExpected
  | .object => .objectCommaExpected

end Bracket

/-- The colon between a name and its value. -/
def readColon (s : List Char) : Except Fault (List Char) :=
  match skipBlanks s with
  | [] => .error .endInObject
  | c :: rest => if c = ':' then .ok rest else .error .colonExpected

theorem readColon_length {s rest : List Char} (h : readColon s = .ok rest) :
    rest.length < s.length := by
  unfold readColon at h
  split at h
  · cases h
  · next c after hblanks =>
    split at h <;> cases h
    exact skipBlanks_cons_length hblanks

/-- The name of a member and its colon. -/
def skipName (s : List Char) : Except Fault (List Char) :=
  match skipBlanks s with
  | [] => .error .endInObject
  | c :: rest =>
    if c = '"' then
      match skipString rest with
      | .error e => .error e
      | .ok after => readColon after
    else .error .keyNotString

theorem skipName_length {s rest : List Char} (h : skipName s = .ok rest) :
    rest.length < s.length := by
  unfold skipName at h
  split at h
  · cases h
  · next c inside hblanks =>
    have hinside := skipBlanks_cons_length hblanks
    split at h
    · split at h
      · cases h
      · next after hname =>
        have hafter := skipString_length hname
        exact Nat.lt_trans (readColon_length h) (Nat.lt_trans hafter hinside)
    · cases h

/-- A value without parts, given with its first character. -/
def skipAtom (c : Char) (s : List Char) : Except Fault (List Char) :=
  if c = 'n' then readWord ['u', 'l', 'l'] s
  else if c = 't' then readWord ['r', 'u', 'e'] s
  else if c = 'f' then readWord ['a', 'l', 's', 'e'] s
  else if c = '"' then skipString s
  else if c = '-' ∨ c.isDigit then skipNumber (c :: s)
  else .error .valueExpected

theorem skipAtom_length {c : Char} {s rest : List Char} (h : skipAtom c s = .ok rest) :
    rest.length ≤ s.length := by
  unfold skipAtom at h
  split at h
  · exact readWord_length h
  · split at h
    · exact readWord_length h
    · split at h
      · exact readWord_length h
      · split at h
        · exact Nat.le_of_lt (skipString_length h)
        · split at h
          · exact Nat.le_of_lt_succ (skipNumber_length h)
          · cases h

mutual

/-- Skips a value, and then all that is open around it. -/
def skipOpen (around : List Bracket) (s : List Char) : Except Fault (List Char) :=
  match hs : skipBlanks s with
  | [] => .error .endInValue
  | c :: rest =>
    have := skipBlanks_cons_length hs
    if c = '[' then skipItems (.list :: around) true rest
    else if c = '\x7b' then skipItems (.object :: around) true rest
    else
      match ha : skipAtom c rest with
      | .error e => .error e
      | .ok after =>
        have := skipAtom_length ha
        skipItems around false after
termination_by 3 * s.length

/-- Goes on after an item, or right after the opening bracket when `first`
    says so. Nothing is left to do once no bracket is open. -/
def skipItems (around : List Bracket) (first : Bool) (s : List Char) : Except Fault (List Char) :=
  match around with
  | [] => .ok s
  | b :: outer =>
    match hs : skipBlanks s with
    | [] => .error b.atEnd
    | c :: rest =>
      have := skipBlanks_cons_length hs
      if c = b.closing then skipItems outer false rest
      else if first then skipMember b around (c :: rest)
      else if c = ',' then skipMember b around rest
      else .error b.noComma
termination_by 3 * s.length + 2

/-- Skips an item of a list, or a name and its value. -/
def skipMember (b : Bracket) (around : List Bracket) (s : List Char) : Except Fault (List Char) :=
  match b with
  | .list => skipOpen around s
  | .object =>
    match hn : skipName s with
    | .error e => .error e
    | .ok after =>
      have := skipName_length hn
      skipOpen around after
termination_by 3 * s.length + 1

end

mutual

/-- A value that is skipped, with all that is open around it, takes a character. -/
theorem skipOpen_length {around : List Bracket} {s rest : List Char}
    (h : skipOpen around s = .ok rest) : rest.length < s.length := by
  rw [skipOpen] at h
  split at h
  · cases h
  · next c tail hblanks =>
    have htail := skipBlanks_cons_length hblanks
    split at h
    · exact Nat.lt_of_le_of_lt (skipItems_length h) htail
    · split at h
      · exact Nat.lt_of_le_of_lt (skipItems_length h) htail
      · split at h
        · cases h
        · next after hatom =>
          have hafter := skipAtom_length hatom
          exact Nat.lt_of_le_of_lt (Nat.le_trans (skipItems_length h) hafter) htail
termination_by 3 * s.length

/-- Going on after an item takes nothing when no bracket is open. -/
theorem skipItems_length {around : List Bracket} {first : Bool} {s rest : List Char}
    (h : skipItems around first s = .ok rest) : rest.length ≤ s.length := by
  rw [skipItems.eq_def] at h
  split at h
  · cases h
    exact Nat.le_refl _
  · next b outer =>
    split at h
    · cases h
    · next c tail hblanks =>
      have htail := skipBlanks_cons_length hblanks
      split at h
      · exact Nat.le_trans (skipItems_length h) (Nat.le_of_lt htail)
      · split at h
        · exact Nat.le_of_lt (Nat.lt_of_lt_of_le (skipMember_length h) htail)
        · split at h
          · exact Nat.le_of_lt (Nat.lt_trans (skipMember_length h) htail)
          · cases h
termination_by 3 * s.length + 2

/-- A member that is skipped takes a character, as its value does. -/
theorem skipMember_length {b : Bracket} {around : List Bracket} {s rest : List Char}
    (h : skipMember b around s = .ok rest) : rest.length < s.length := by
  cases b with
  | list =>
    rw [skipMember] at h
    exact skipOpen_length h
  | object =>
    rw [skipMember] at h
    split at h
    · cases h
    · next after hname =>
      have hafter := skipName_length hname
      exact Nat.lt_trans (skipOpen_length h) hafter
termination_by 3 * s.length + 1

end

/-- Skips one value. -/
def skipValue (s : List Char) : Except Fault (List Char) := skipOpen [] s

theorem skipValue_length {s rest : List Char} (h : skipValue s = .ok rest) :
    rest.length < s.length :=
  skipOpen_length h

end Chip8.Json

import Chip8.Json.Skip

/-! # Shapes of values

The values a record holds are scalars, lists of a fixed size and lists of any
size. A shape says which, and with it how the value is read and written. What
is written has no blanks; what is read may have them between any two tokens. -/

namespace Chip8.Json

/-- The fault of a value of a kind that is not expected, given with its first
    character. A value that is itself malformed is reported as such. -/
def mismatch (expected : String) (c : Char) (s : List Char) : Fault :=
  let kind (found : Found) : Fault := .wrongKind found expected
  let word (letters : List Char) (found : Found) : Fault :=
    match readWord letters s with
    | .error e => e
    | .ok _ => kind found
  if c = 'n' then word ['u', 'l', 'l'] .null
  else if c = 't' then word ['r', 'u', 'e'] (.boolean true)
  else if c = 'f' then word ['a', 'l', 's', 'e'] (.boolean false)
  else if c = '"' then
    match readString s with
    | .error e => e
    | .ok (text, _) => kind (.text text)
  else if c = '[' then kind .list
  else if c = '\x7b' then kind .record
  else if c = '-' ∨ c.isDigit then
    match readNumber (c :: s) with
    | .error e => e
    | .ok (.integer n, _) => kind (.integer n)
    | .ok (.real negative x, _) => kind (.real negative x)
  else .valueExpected

/-! ## Scalars -/

inductive Scalar where
  | byte
  | word
  | flag
deriving DecidableEq

namespace Scalar

abbrev Value : Scalar → Type
  | byte => UInt8
  | word => UInt16
  | flag => Bool

def expected : Scalar → String
  | byte => "u8"
  | word => "u16"
  | flag => "a boolean"

end Scalar

/-- A whole number from 0 to `limit`. -/
def readNatural (limit : Nat) (expected : String) (s : List Char) :
    Except Fault (Nat × List Char) :=
  match skipBlanks s with
  | [] => .error .endInValue
  | c :: rest =>
    if c = '-' ∨ c.isDigit then
      match readNumber (c :: rest) with
      | .error e => .error e
      | .ok (.real negative x, _) => .error (.wrongKind (.real negative x) expected)
      | .ok (.integer n, after) =>
        if 0 ≤ n ∧ n ≤ limit then .ok (n.toNat, after) else .error (.outOfRange n expected)
    else .error (mismatch expected c rest)

def readFlag (s : List Char) : Except Fault (Bool × List Char) :=
  match skipBlanks s with
  | [] => .error .endInValue
  | c :: rest =>
    if c = 't' then (readWord ['r', 'u', 'e'] rest).map ((true, ·))
    else if c = 'f' then (readWord ['a', 'l', 's', 'e'] rest).map ((false, ·))
    else .error (mismatch Scalar.flag.expected c rest)

namespace Scalar

def read : (k : Scalar) → List Char → Except Fault (k.Value × List Char)
  | byte, s => (readNatural 255 byte.expected s).map fun (n, rest) => (UInt8.ofNat n, rest)
  | word, s => (readNatural 65535 word.expected s).map fun (n, rest) => (UInt16.ofNat n, rest)
  | flag, s => readFlag s

def write : (k : Scalar) → k.Value → String
  | byte, b => toString b.toNat
  | word, w => toString w.toNat
  | flag, b => if b then "true" else "false"

end Scalar

theorem readNatural_length {limit n : Nat} {expected : String} {s rest : List Char}
    (h : readNatural limit expected s = .ok (n, rest)) : rest.length < s.length := by
  unfold readNatural at h
  split at h
  · cases h
  · next c tail hblanks =>
    have htail := skipBlanks_cons_length hblanks
    split at h
    · split at h
      · cases h
      · cases h
      · next value after hnumber =>
        have hafter := readNumber_length hnumber
        split at h <;> cases h
        exact Nat.lt_of_lt_of_le hafter htail
    · cases h

theorem readFlag_length {b : Bool} {s rest : List Char} (h : readFlag s = .ok (b, rest)) :
    rest.length < s.length := by
  have hword : ∀ {letters t : List Char} {c : Bool},
      (readWord letters t).map ((c, ·)) = .ok (b, rest) → rest.length ≤ t.length := by
    intro letters t c ht
    exact readWord_length (map_left_eq_ok ht).1
  unfold readFlag at h
  split at h
  · cases h
  · next c tail hblanks =>
    have htail := skipBlanks_cons_length hblanks
    split at h
    · exact Nat.lt_of_le_of_lt (hword h) htail
    · split at h
      · exact Nat.lt_of_le_of_lt (hword h) htail
      · cases h

theorem Scalar.read_length {k : Scalar} {x : k.Value} {s rest : List Char}
    (h : k.read s = .ok (x, rest)) : rest.length < s.length := by
  cases k with
  | byte =>
    obtain ⟨n, hn, -⟩ := map_read_eq_ok h
    exact readNatural_length hn
  | word =>
    obtain ⟨n, hn, -⟩ := map_read_eq_ok h
    exact readNatural_length hn
  | flag => exact readFlag_length h

/-! ## Lists -/

/-- The characters of the next item of a list, or none at the closing bracket.
    A comma has to stand before every item but the first. -/
def nextItem (first : Bool) (s : List Char) : Except Fault (Option (List Char)) :=
  match skipBlanks s with
  | [] => .error .endInList
  | c :: rest =>
    if c = ']' then .ok none
    else if first then .ok (some (c :: rest))
    else if c = ',' then
      match skipBlanks rest with
      | [] => .error .endInValue
      | d :: more => if d = ']' then .error .trailingComma else .ok (some (d :: more))
    else .error .listCommaExpected

theorem nextItem_length {first : Bool} {s rest : List Char}
    (h : nextItem first s = .ok (some rest)) : rest.length ≤ s.length := by
  unfold nextItem at h
  split at h
  · cases h
  · next c tail hblanks =>
    have htail := skipBlanks_cons_length hblanks
    split at h
    · cases h
    · split at h
      · cases h
        exact htail
      · split at h
        · split at h
          · cases h
          · next d more hmore =>
            have hlater := skipBlanks_cons_length hmore
            split at h <;> cases h
            exact Nat.le_of_lt (Nat.lt_of_le_of_lt hlater htail)
        · cases h

/-- The closing bracket of a list whose items have all been read. -/
def closeList (s : List Char) : Except Fault (List Char) :=
  match skipBlanks s with
  | [] => .error .endInList
  | c :: rest =>
    if c = ']' then .ok rest
    else if c = ',' then
      .error (if (skipBlanks rest).head? = some ']' then .trailingComma else .trailingText)
    else .error .trailingText

theorem closeList_length {s rest : List Char} (h : closeList s = .ok rest) :
    rest.length < s.length := by
  unfold closeList at h
  split at h
  · cases h
  · next c tail hblanks =>
    split at h
    · cases h
      exact skipBlanks_cons_length hblanks
    · split at h <;> cases h

/-- Items up to a number, of which `taken` have been read before. -/
def readExactly (k : Scalar) (expected : String) (taken : Nat) :
    (missing : Nat) → List Char →
      Except Fault ({ items : List k.Value // items.length = missing } × List Char)
  | 0, s => .ok (⟨[], rfl⟩, s)
  | missing + 1, s =>
    match nextItem (taken == 0) s with
    | .error e => .error e
    | .ok none => .error (.wrongLength taken expected)
    | .ok (some item) =>
      match k.read item with
      | .error e => .error e
      | .ok (x, after) =>
        match readExactly k expected (taken + 1) missing after with
        | .error e => .error e
        | .ok (⟨xs, hx⟩, rest) => .ok (⟨x :: xs, by rw [List.length_cons, hx]⟩, rest)

theorem readExactly_length {k : Scalar} {expected : String} {taken missing : Nat}
    {items : { items : List k.Value // items.length = missing }} {s rest : List Char}
    (h : readExactly k expected taken missing s = .ok (items, rest)) : rest.length ≤ s.length := by
  induction missing generalizing taken s rest with
  | zero =>
    cases h
    exact Nat.le_refl _
  | succ n ih =>
    unfold readExactly at h
    split at h
    · cases h
    · cases h
    · next item hnext =>
      have hitem := nextItem_length hnext
      split at h
      · cases h
      · next x after hread =>
        have hafter := Scalar.read_length hread
        split at h
        · cases h
        · next xs hxs left hrest =>
          cases h
          exact Nat.le_trans (ih hrest) (Nat.le_of_lt (Nat.lt_of_lt_of_le hafter hitem))

/-- Items up to the closing bracket, after those read before in reverse. -/
def readMany (k : Scalar) (sofar : List k.Value) (s : List Char) :
    Except Fault (List k.Value × List Char) :=
  match hi : nextItem sofar.isEmpty s with
  | .error e => .error e
  | .ok none => .ok (sofar.reverse, s)
  | .ok (some item) =>
    match hr : k.read item with
    | .error e => .error e
    | .ok (x, after) =>
      have := nextItem_length hi
      have := Scalar.read_length hr
      readMany k (x :: sofar) after
termination_by s.length

theorem readMany_length {k : Scalar} {sofar items : List k.Value} {s rest : List Char}
    (h : readMany k sofar s = .ok (items, rest)) : rest.length ≤ s.length := by
  fun_induction readMany k sofar s with
  | case1 => cases h
  | case2 =>
    cases h
    exact Nat.le_refl _
  | case3 => cases h
  | case4 sofar s item hnext x after hread hitem hafter ih =>
    exact Nat.le_trans (ih h) (Nat.le_of_lt (Nat.lt_of_lt_of_le hafter hitem))

/-! ## Shapes -/

inductive Shape where
  | one (item : Scalar)
  | exactly (size : Nat) (item : Scalar)
  | many (item : Scalar)
deriving DecidableEq

namespace Shape

abbrev Value : Shape → Type
  | one k => k.Value
  | exactly n k => Vector k.Value n
  | many k => List k.Value

def expected : Shape → String
  | one k => k.expected
  | exactly n _ => s!"an array of length {n}"
  | many _ => "a sequence"

end Shape

/-- The characters after the opening bracket of a list. -/
def openList (expected : String) (s : List Char) : Except Fault (List Char) :=
  match skipBlanks s with
  | [] => .error .endInValue
  | c :: rest => if c = '[' then .ok rest else .error (mismatch expected c rest)

theorem openList_length {expected : String} {s rest : List Char}
    (h : openList expected s = .ok rest) : rest.length < s.length := by
  unfold openList at h
  split at h
  · cases h
  · next c tail hblanks =>
    split at h <;> cases h
    exact skipBlanks_cons_length hblanks

namespace Shape

def read : (k : Shape) → List Char → Except Fault (k.Value × List Char)
  | one k, s => k.read s
  | exactly n k, s =>
    match openList (exactly n k).expected s with
    | .error e => .error e
    | .ok inside =>
      match readExactly k (exactly n k).expected 0 n inside with
      | .error e => .error e
      | .ok (⟨items, size⟩, after) =>
        (closeList after).map fun rest => (⟨items.toArray, by rw [List.size_toArray, size]⟩, rest)
  | many k, s =>
    match openList (many k).expected s with
    | .error e => .error e
    | .ok inside =>
      match readMany k [] inside with
      | .error e => .error e
      | .ok (items, after) => (closeList after).map fun rest => (items, rest)

theorem read_length {k : Shape} {x : k.Value} {s rest : List Char}
    (h : k.read s = .ok (x, rest)) : rest.length < s.length := by
  cases k with
  | one k => exact Scalar.read_length h
  | exactly n k =>
    simp only [read] at h
    split at h
    · cases h
    · next inside hopen =>
      have hinside := openList_length hopen
      split at h
      · cases h
      · next items hsize after hitems =>
        have hafter := readExactly_length hitems
        have hclosed := closeList_length (map_left_eq_ok h).1
        exact Nat.lt_trans (Nat.lt_of_lt_of_le hclosed hafter) hinside
  | many k =>
    simp only [read] at h
    split at h
    · cases h
    · next inside hopen =>
      have hinside := openList_length hopen
      split at h
      · cases h
      · next items after hitems =>
        have hafter := readMany_length hitems
        have hclosed := closeList_length (map_left_eq_ok h).1
        exact Nat.lt_trans (Nat.lt_of_lt_of_le hclosed hafter) hinside

/-- Items between square brackets, with commas and no blanks. -/
def writeList (k : Scalar) (items : List k.Value) : String :=
  "[" ++ String.intercalate "," (items.map k.write) ++ "]"

def write : (k : Shape) → k.Value → String
  | one k, x => k.write x
  | exactly _ k, xs => writeList k xs.toList
  | many k, xs => writeList k xs

end Shape

end Chip8.Json

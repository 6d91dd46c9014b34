import Chip8.Json.Shape

/-! # Records

A record has a fixed set of named fields, each of a fixed shape. Its text is
an object that has every field once, in any order and among members of other
names, or a list of the values in the order of the fields. It is written as an
object in that order. -/

namespace Chip8.Json

/-- A kind of record, with its fields in the order in which they are written. -/
structure Record (F : Type) where
  title : String
  fields : List F
  complete : ∀ f, f ∈ fields
  label : F → String
  shape : F → Shape

namespace Record

variable {F : Type}

/-- A value for every field. -/
abbrev Row (R : Record F) : Type := (f : F) → (R.shape f).Value

/-- The values read so far. -/
abbrev Slots (R : Record F) : Type := (f : F) → Option (R.shape f).Value

def noSlots (R : Record F) : R.Slots := fun _ => none

def fill [DecidableEq F] (R : Record F) (slots : R.Slots) (f : F) (x : (R.shape f).Value) :
    R.Slots :=
  fun g => if h : f = g then some (h ▸ x) else slots g

/-- The field of a name. -/
def field? (R : Record F) (name : String) : Option F := R.fields.find? (R.label · == name)

/-- The row of slots that are all filled, or else the first field without a
    value. -/
def finish (R : Record F) (slots : R.Slots) : Except Fault R.Row :=
  match h : R.fields.find? (fun f => (slots f).isNone) with
  | some f => .error (.missingField (R.label f))
  | none => .ok fun f => (slots f).get (by
      have hfilled := List.find?_eq_none.1 h f (R.complete f)
      simpa [Option.isSome_iff_ne_none] using hfilled)

/-- What a fault says was expected of the whole. -/
def expected (R : Record F) : String := s!"struct {R.title}"

/-- What a fault says was expected of a list of the values. -/
def expectedItems (R : Record F) : String :=
  let n := R.fields.length
  s!"{R.expected} with {n} " ++ if n = 1 then "element" else "elements"

end Record

/-! ## Objects -/

/-- The name of the next member with the characters after it, or none with
    those after the closing bracket. -/
def nextName (first : Bool) (s : List Char) : Except Fault (Option String × List Char) :=
  let name (s : List Char) := (readString s).map fun (text, rest) => (some text, rest)
  match skipBlanks s with
  | [] => .error .endInObject
  | c :: rest =>
    if c = '\x7d' then .ok (none, rest)
    else if first then if c = '"' then name rest else .error .keyNotString
    else if c = ',' then
      match skipBlanks rest with
      | [] => .error .endInValue
      | d :: more =>
        if d = '"' then name more
        else if d = '\x7d' then .error .trailingComma
        else .error .keyNotString
    else .error .objectCommaExpected

theorem nextName_length {first : Bool} {name : Option String} {s rest : List Char}
    (h : nextName first s = .ok (name, rest)) : rest.length < s.length := by
  have hquoted : ∀ {t : List Char},
      ((readString t).map fun (text, rest) => (some text, rest)) = .ok (name, rest) →
        rest.length < t.length := by
    intro t ht
    obtain ⟨text, hread, -⟩ := map_read_eq_ok ht
    exact readString_length hread
  simp only [nextName] at h
  split at h
  · cases h
  · next c tail hblanks =>
    have htail := skipBlanks_cons_length hblanks
    split at h
    · cases h
      exact htail
    · split at h
      · split at h
        · exact Nat.lt_trans (hquoted h) htail
        · cases h
      · split at h
        · split at h
          · cases h
          · next d more hmore =>
            have hlater := skipBlanks_cons_length hmore
            split at h
            · exact Nat.lt_trans (hquoted h) (Nat.lt_trans hlater htail)
            · split at h <;> cases h
        · cases h

namespace Record

variable {F : Type} [DecidableEq F]

/-- The members up to the closing bracket, after those whose values are in the
    slots. A name is judged before its value is looked at. -/
def readMembers (R : Record F) (slots : R.Slots) (first : Bool) (s : List Char) :
    Except Fault (R.Row × List Char) :=
  match hn : nextName first s with
  | .error e => .error e
  | .ok (none, rest) => (R.finish slots).map fun row => (row, rest)
  | .ok (some name, rest) =>
    have := nextName_length hn
    match R.field? name with
    | none =>
      match hc : readColon rest with
      | .error e => .error e
      | .ok value =>
        have := readColon_length hc
        match hv : skipValue value with
        | .error e => .error e
        | .ok after =>
          have := skipValue_length hv
          R.readMembers slots false after
    | some f =>
      if (slots f).isSome then .error (.duplicateField (R.label f))
      else
        match hc : readColon rest with
        | .error e => .error e
        | .ok value =>
          have := readColon_length hc
          match hv : (R.shape f).read value with
          | .error e => .error e
          | .ok (x, after) =>
            have := Shape.read_length hv
            R.readMembers (R.fill slots f x) false after
termination_by s.length

/-! ## Lists -/

/-- The values of some fields in order, after those of `taken` others. -/
def readItems (R : Record F) (taken : Nat) : List F → R.Slots → List Char →
    Except Fault (R.Slots × List Char)
  | [], slots, s => .ok (slots, s)
  | f :: fs, slots, s =>
    match nextItem (taken == 0) s with
    | .error e => .error e
    | .ok none => .error (.wrongLength taken R.expectedItems)
    | .ok (some item) =>
      match (R.shape f).read item with
      | .error e => .error e
      | .ok (x, after) => R.readItems (taken + 1) fs (R.fill slots f x) after

/-! ## The whole text -/

/-- A record and the characters after it. -/
def read (R : Record F) (s : List Char) : Except Fault (R.Row × List Char) :=
  match skipBlanks s with
  | [] => .error .endInValue
  | c :: rest =>
    if c = '\x7b' then R.readMembers R.noSlots true rest
    else if c = '[' then
      match R.readItems 0 R.fields R.noSlots rest with
      | .error e => .error e
      | .ok (slots, after) =>
        match closeList after with
        | .error e => .error e
        | .ok rest => (R.finish slots).map fun row => (row, rest)
    else .error (mismatch R.expected c rest)

/-- The record that a text holds. Only blanks may follow it. -/
def parse (R : Record F) (text : String) : Except Fault R.Row :=
  match R.read text.toList with
  | .error e => .error e
  | .ok (row, rest) => if skipBlanks rest = [] then .ok row else .error .trailingText

omit [DecidableEq F] in
/-- A member of the written object. -/
def writeMember (R : Record F) (row : R.Row) (f : F) : String :=
  "\"" ++ R.label f ++ "\":" ++ (R.shape f).write (row f)

omit [DecidableEq F] in
/-- The text of a record. -/
def write (R : Record F) (row : R.Row) : String :=
  "\x7b" ++ String.intercalate "," (R.fields.map (R.writeMember row)) ++ "\x7d"

end Record

end Chip8.Json

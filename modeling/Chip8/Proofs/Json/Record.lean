-- SUMMARY: The names of a record's fields, their slots, and what is read from one member.
import Chip8.Json.Record
import Chip8.Proofs.Json.Shape

/-! # Fields of a record

The labels of a record can stand in a string as they are, and each belongs to one
field. Slots that are all filled make a row. A member whose name is a label fills
the slot of that field, any other member is skipped. -/

namespace Chip8.Json

/-! ## Names -/

/-- Whether a character stands for itself in a string. -/
def isPlain (c : Char) : Bool := c != '"' && c != '\\' && !isControl c

/-- The labels of a record can be written as they are and tell its fields apart. -/
structure Record.Labelled {F : Type} (R : Record F) : Prop where
  plain : ∀ f, ∀ c ∈ (R.label f).toList, isPlain c = true
  field? : ∀ f, R.field? (R.label f) = some f
  distinct : R.fields.Nodup

namespace Record

variable {F : Type} {R : Record F}

/-! ## Names of fields -/

theorem field?_eq_some {name : String} {f : F} (h : R.field? name = some f) : R.label f = name := by
  simpa [field?] using List.find?_some h

theorem field?_eq_none_iff {name : String} : R.field? name = none ↔ ∀ f, R.label f ≠ name := by
  simp only [field?, List.find?_eq_none, beq_iff_eq]
  exact ⟨fun h f => h f (R.complete f), fun h f _ => h f⟩

theorem Labelled.inj (hR : R.Labelled) {f g : F} (h : R.label f = R.label g) : f = g := by
  have hfield := hR.field? f
  rw [h, hR.field? g, Option.some.injEq] at hfield
  exact hfield.symm

/-! ## Slots -/

/-- Slots that hold a row finish as that row. -/
theorem finish_of_full {slots : R.Slots} {row : R.Row} (h : ∀ f, slots f = some (row f)) :
    R.finish slots = .ok row := by
  obtain rfl : slots = fun f => some (row f) := funext h
  unfold finish
  split
  · next f hfind =>
    have hempty := List.find?_some hfind
    simp at hempty
  · rfl

/-- A row is only made of slots that are all filled. -/
theorem slots_of_finish {slots : R.Slots} {row : R.Row} (h : R.finish slots = .ok row) (f : F) :
    slots f = some (row f) := by
  unfold finish at h
  split at h
  · cases h
  · cases h
    exact (Option.some_get _).symm

variable [DecidableEq F]

theorem fill_self (slots : R.Slots) (f : F) (x : (R.shape f).Value) :
    R.fill slots f x f = some x := by
  simp [fill]

theorem fill_of_ne (slots : R.Slots) {f g : F} (x : (R.shape f).Value) (h : f ≠ g) :
    R.fill slots f x g = slots g := by
  simp [fill, h]

/-- The slots with the values of some fields added. -/
def fillAll (R : Record F) (row : R.Row) (slots : R.Slots) : List F → R.Slots
  | [] => slots
  | f :: fs => R.fillAll row (R.fill slots f (row f)) fs

theorem fillAll_of_mem (row : R.Row) (slots : R.Slots) {fs : List F} {f : F}
    (hf : f ∈ fs ∨ slots f = some (row f)) : R.fillAll row slots fs f = some (row f) := by
  induction fs generalizing slots with
  | nil => simpa [fillAll] using hf
  | cons g fs ih =>
    apply ih
    by_cases hg : g = f
    · subst hg
      exact .inr (fill_self slots g (row g))
    · rw [fill_of_ne slots (row g) hg]
      rcases hf with hf | hf
      · exact .inl ((List.mem_cons.1 hf).resolve_left fun h => hg h.symm)
      · exact .inr hf

/-! ## One member -/

variable {slots : R.Slots} {first : Bool} {s rest value after : List Char} {name : String}

/-- The reader of members, one member at a time. -/
theorem readMembers_eq (R : Record F) (slots : R.Slots) (first : Bool) (s : List Char) :
    R.readMembers slots first s =
      match nextName first s with
      | .error e => .error e
      | .ok (none, rest) => (R.finish slots).map fun row => (row, rest)
      | .ok (some name, rest) =>
        match R.field? name with
        | none =>
          match readColon rest with
          | .error e => .error e
          | .ok value =>
            match skipValue value with
            | .error e => .error e
            | .ok after => R.readMembers slots false after
        | some f =>
          if (slots f).isSome then .error (.duplicateField (R.label f))
          else
            match readColon rest with
            | .error e => .error e
            | .ok value =>
              match (R.shape f).read value with
              | .error e => .error e
              | .ok (x, after) => R.readMembers (R.fill slots f x) false after := by
  rw [readMembers]
  split
  · next heq => simp only [heq]
  · next heq => simp only [heq]
  · next name rest heq =>
    simp only [heq]
    cases R.field? name with
    | none =>
      cases hcolon : readColon rest with
      | error e => rfl
      | ok value =>
        simp only
        cases skipValue value <;> rfl
    | some f =>
      simp only
      split
      · rfl
      · cases hcolon : readColon rest with
        | error e => rfl
        | ok value =>
          simp only
          cases (R.shape f).read value <;> rfl

theorem readMembers_end (hname : nextName first s = .ok (none, rest)) :
    R.readMembers slots first s = (R.finish slots).map fun row => (row, rest) := by
  simp [readMembers_eq, hname]

/-- A member of another name is skipped. -/
theorem readMembers_other (hname : nextName first s = .ok (some name, rest))
    (hother : R.field? name = none) (hcolon : readColon rest = .ok value)
    (hskip : skipValue value = .ok after) :
    R.readMembers slots first s = R.readMembers slots false after := by
  rw [readMembers_eq]
  simp [hname, hother, hcolon, hskip]

/-- The value of a field fills its slot. -/
theorem readMembers_field {f : F} {x : (R.shape f).Value}
    (hname : nextName first s = .ok (some name, rest)) (hfield : R.field? name = some f)
    (hfree : slots f = none) (hcolon : readColon rest = .ok value)
    (hread : (R.shape f).read value = .ok (x, after)) :
    R.readMembers slots first s = R.readMembers (R.fill slots f x) false after := by
  rw [readMembers_eq]
  simp [hname, hfield, hfree, hcolon, hread]

end Record

end Chip8.Json

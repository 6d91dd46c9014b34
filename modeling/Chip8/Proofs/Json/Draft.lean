-- SUMMARY: Numbers of any size in the place of a field are read exactly or refused.
import Chip8.Proofs.Json.Members
import Chip8.Proofs.Json.Whole

/-! # Drafts

A draft of a record has whole numbers of any size where the record has bytes and
words, and lists of any length where it has lists of a fixed size. Drafts are written
as records are. A record is read from a written draft only if it holds the very
values of the draft: nothing is cut off, filled up or wrapped around. -/

namespace Chip8.Json

variable {s rest after : List Char} {first : Bool}

/-! ## Drafts of scalars -/

/-- What a draft has in the place of a scalar. -/
abbrev Scalar.Draft : Scalar → Type
  | .byte => Int
  | .word => Int
  | .flag => Bool

namespace Scalar

def draft : (k : Scalar) → k.Value → k.Draft
  | .byte, b => b.toNat
  | .word, w => w.toNat
  | .flag, b => b

def print : (k : Scalar) → k.Draft → String
  | .byte, n => toString n
  | .word, n => toString n
  | .flag, b => toString b

/-- The drafts that a scalar fits. -/
def Fits : (k : Scalar) → k.Draft → Prop
  | .byte, n => 0 ≤ n ∧ n ≤ 255
  | .word, n => 0 ≤ n ∧ n ≤ 65535
  | .flag, _ => True

theorem print_draft (k : Scalar) (x : k.Value) : k.print (k.draft x) = k.write x := by
  cases k with
  | byte => rfl
  | word => rfl
  | flag => cases x <;> rfl

theorem exists_draft_iff {k : Scalar} {d : k.Draft} : (∃ x, k.draft x = d) ↔ k.Fits d := by
  cases k with
  | byte => exact exists_byte_iff
  | word => exact exists_word_iff
  | flag => exact ⟨fun _ => trivial, fun _ => ⟨d, rfl⟩⟩

theorem isValue_print (k : Scalar) (d : k.Draft) : IsValue (k.print d).toList := by
  cases k with
  | byte => exact .number (isNumber_toString d)
  | word => exact .number (isNumber_toString d)
  | flag =>
    cases d with
    | false => exact .no
    | true => exact .yes

/-- A scalar is only read from its own draft. -/
theorem draft_of_read {k : Scalar} {d : k.Draft} {x : k.Value} (hrest : endsNumber rest = true)
    (h : k.read ((k.print d).toList ++ rest) = .ok (x, after)) : k.draft x = d := by
  cases k with
  | byte =>
    obtain ⟨n, hread, rfl⟩ := map_read_eq_ok h
    obtain ⟨hn, hle⟩ := eq_of_readNatural hrest hread
    rw [draft, UInt8.toNat_ofNat_of_lt' (Nat.lt_succ_of_le hle)]
    exact hn
  | word =>
    obtain ⟨n, hread, rfl⟩ := map_read_eq_ok h
    obtain ⟨hn, hle⟩ := eq_of_readNatural hrest hread
    rw [draft, UInt16.toNat_ofNat_of_lt' (Nat.lt_succ_of_le hle)]
    exact hn
  | flag =>
    have hwrite := flag.read_write d hrest
    rw [← print_draft] at hwrite
    have heq := h.symm.trans hwrite
    simp only [Except.ok.injEq, Prod.mk.injEq] at heq
    exact heq.1

end Scalar

/-! ## Drafts of any shape -/

/-- Texts between square brackets, with commas and no blanks. -/
def bracketed (texts : List String) : String := "[" ++ String.intercalate "," texts ++ "]"

/-- A name between quotes and a value, with a colon and no blanks. -/
def entry (name value : String) : String := "\"" ++ name ++ "\":" ++ value

namespace Shape

/-- What a draft has in the place of a value. -/
abbrev Draft : Shape → Type
  | .one k => k.Draft
  | .exactly _ k => List k.Draft
  | .many k => List k.Draft

def draft : (k : Shape) → k.Value → k.Draft
  | .one k, x => k.draft x
  | .exactly _ k, xs => xs.toList.map k.draft
  | .many k, xs => xs.map k.draft

def print : (k : Shape) → k.Draft → String
  | .one k, d => k.print d
  | .exactly _ k, ds => bracketed (ds.map k.print)
  | .many k, ds => bracketed (ds.map k.print)

/-- The drafts that a value of some shape fits. -/
def Fits : (k : Shape) → k.Draft → Prop
  | .one k, d => k.Fits d
  | .exactly size k, ds => ds.length = size ∧ ∀ d ∈ ds, k.Fits d
  | .many k, ds => ∀ d ∈ ds, k.Fits d

theorem print_draft (k : Shape) (x : k.Value) : k.print (k.draft x) = k.write x := by
  cases k with
  | one k => exact k.print_draft x
  | exactly size k =>
    rw [print, draft, List.map_map, write, writeList, bracketed]
    simp only [Function.comp_def, Scalar.print_draft]
  | many k =>
    rw [print, draft, List.map_map, write, writeList, bracketed]
    simp only [Function.comp_def, Scalar.print_draft]

theorem exists_drafts_iff {k : Scalar} {ds : List k.Draft} :
    (∃ xs : List k.Value, xs.map k.draft = ds) ↔ ∀ d ∈ ds, k.Fits d := by
  constructor
  · rintro ⟨xs, rfl⟩ d hd
    obtain ⟨x, -, rfl⟩ := List.mem_map.1 hd
    exact Scalar.exists_draft_iff.1 ⟨x, rfl⟩
  · intro h
    induction ds with
    | nil => exact ⟨[], rfl⟩
    | cons d ds ih =>
      obtain ⟨hd, hds⟩ := List.forall_mem_cons.1 h
      obtain ⟨x, rfl⟩ := Scalar.exists_draft_iff.2 hd
      obtain ⟨xs, rfl⟩ := ih hds
      exact ⟨x :: xs, rfl⟩

theorem exists_draft_iff {k : Shape} {d : k.Draft} : (∃ x, k.draft x = d) ↔ k.Fits d := by
  cases k with
  | one k => exact Scalar.exists_draft_iff
  | exactly size k =>
    constructor
    · rintro ⟨xs, rfl⟩
      exact ⟨by simp [draft], exists_drafts_iff.1 ⟨xs.toList, rfl⟩⟩
    · rintro ⟨hsize, hfits⟩
      obtain ⟨xs, rfl⟩ := exists_drafts_iff.2 hfits
      rw [List.length_map] at hsize
      exact ⟨⟨xs.toArray, hsize⟩, rfl⟩
  | many k => exact exists_drafts_iff

end Shape

/-! ## Reading drafts -/

/-- The items of a written list of drafts. -/
def Scalar.printed (k : Scalar) (ds : List k.Draft) : List Item :=
  ds.map fun d => .plain (k.print d).toList

theorem Scalar.isValue_printed (k : Scalar) (ds : List k.Draft) :
    ∀ i ∈ k.printed ds, IsValue i.core := by
  intro i hi
  obtain ⟨d, -, rfl⟩ := List.mem_map.1 hi
  exact k.isValue_print d

theorem bracketed_toList (k : Scalar) (ds : List k.Draft) :
    (bracketed (ds.map k.print)).toList = listText .none (k.printed ds) := by
  simp [bracketed, listText, commaSeparated, Scalar.printed, Function.comp_def]

theorem Shape.isValue_print (k : Shape) (d : k.Draft) : IsValue (k.print d).toList := by
  have hlist : ∀ (k : Scalar) (ds : List k.Draft), IsValue (bracketed (ds.map k.print)).toList := by
    intro k ds
    rw [bracketed_toList]
    exact .list .none _ (k.isValue_printed ds)
  cases k with
  | one k => exact k.isValue_print d
  | exactly size k => exact hlist k d
  | many k => exact hlist k d

/-- What is read in front of written drafts is the first of them, up to its end. -/
theorem Scalar.read_printed {k : Scalar} {ds : List k.Draft} {x : k.Value} {item left : List Char}
    (hat : AtItems first s (k.printed ds) rest) (hitem : nextItem first s = .ok (some item))
    (hread : k.read item = .ok (x, left)) :
    ∃ more, ds = k.draft x :: more ∧ AtItems false left (k.printed more) rest := by
  cases ds with
  | nil =>
    cases hat with
    | close hs =>
      rw [nextItem_of_close hs] at hitem
      cases hitem
  | cons d more =>
    rw [printed, List.map_cons] at hat
    cases hat with
    | item hnext hmore =>
      rw [hnext, Except.ok.injEq, Option.some.injEq] at hitem
      subst hitem
      have hleft :=
        (Shape.one k).rest_of_read (k.isValue_print d) Blanks.none hmore.endsNumber hread
      refine ⟨more, ?_, ?_⟩
      · rw [draft_of_read hmore.endsNumber hread]
      · rw [hleft]
        exact hmore

/-- A list of a fixed size is only read from drafts of that number. -/
theorem draft_of_readExactly {k : Scalar} {ds : List k.Draft} {expected : String}
    {taken missing : Nat} {xs : { xs : List k.Value // xs.length = missing }} {left : List Char}
    (hat : AtItems (taken == 0) s (k.printed ds) rest)
    (h : readExactly k expected taken missing s = .ok (xs, left))
    (hclose : closeList left = .ok after) : xs.val.map k.draft = ds := by
  induction missing generalizing taken ds s with
  | zero =>
    simp only [readExactly, Except.ok.injEq, Prod.mk.injEq] at h
    obtain ⟨rfl, rfl⟩ := h
    exact (List.map_eq_nil_iff.1 (hat.nil_of_closeList hclose)).symm
  | succ missing ih =>
    unfold readExactly at h
    split at h
    · cases h
    · cases h
    · next hnext =>
      split at h
      · cases h
      · next x _ hread =>
        obtain ⟨more, rfl, hmore⟩ := Scalar.read_printed hat hnext hread
        split at h
        · cases h
        · next hrest =>
          simp only [Except.ok.injEq, Prod.mk.injEq] at h
          obtain ⟨rfl, rfl⟩ := h
          have hlater : AtItems (taken + 1 == 0) _ (k.printed more) rest := hmore
          rw [List.map_cons, ih hlater hrest]

/-- A list of any size is only read from its own drafts. -/
theorem draft_of_readMany {k : Scalar} {ds : List k.Draft} {sofar xs : List k.Value}
    {left : List Char} (hat : AtItems sofar.isEmpty s (k.printed ds) rest)
    (h : readMany k sofar s = .ok (xs, left)) : xs.map k.draft = sofar.reverse.map k.draft ++ ds := by
  fun_induction readMany k sofar s generalizing ds with
  | case1 => cases h
  | case2 sofar s hnext =>
    cases h
    rw [List.map_eq_nil_iff.1 (hat.nil_of_nextItem hnext), List.append_nil]
  | case3 => cases h
  | case4 sofar s item hnext x left hread _ _ ih =>
    obtain ⟨more, rfl, hmore⟩ := Scalar.read_printed hat hnext hread
    rw [ih hmore h]
    simp

/-- A value of any shape is only read from its own draft. -/
theorem Shape.draft_of_read {k : Shape} {d : k.Draft} {x : k.Value}
    (hrest : endsNumber rest = true)
    (h : k.read ((k.print d).toList ++ rest) = .ok (x, after)) : k.draft x = d := by
  cases k with
  | one k => exact Scalar.draft_of_read hrest h
  | exactly size k =>
    simp only [read, print, bracketed_toList, openList_listText] at h
    have hat : AtItems ((0 : Nat) == 0) _ (k.printed d) rest :=
      atItems_list .none (k.isValue_printed d) rest
    split at h
    · cases h
    · next hitems =>
      obtain ⟨hclose, rfl⟩ := map_left_eq_ok h
      exact draft_of_readExactly hat hitems hclose
  | many k =>
    simp only [read, print, bracketed_toList, openList_listText] at h
    have hat : AtItems ([] : List k.Value).isEmpty _ (k.printed d) rest :=
      atItems_list .none (k.isValue_printed d) rest
    split at h
    · cases h
    · next hitems =>
      obtain ⟨-, rfl⟩ := map_left_eq_ok h
      exact draft_of_readMany hat hitems

/-! ## Drafts of a record -/

namespace Record

variable {F : Type} {R : Record F}

/-- A draft for every field. -/
abbrev Draft (R : Record F) : Type := (f : F) → (R.shape f).Draft

def draft (R : Record F) (row : R.Row) : R.Draft := fun f => (R.shape f).draft (row f)

/-- The text of a draft, with the fields in order. -/
def print (R : Record F) (d : R.Draft) : String :=
  "\x7b" ++ String.intercalate ","
    (R.fields.map fun f => entry (R.label f) ((R.shape f).print (d f))) ++ "\x7d"

theorem print_draft (row : R.Row) : R.print (R.draft row) = R.write row := by
  simp only [print, draft, Shape.print_draft, write]
  rfl

/-- The member that is written for a field. -/
def draftMember (R : Record F) (d : R.Draft) (f : F) : Member :=
  .plain (R.label f).toList ((R.shape f).print (d f)).toList

theorem print_toList (d : R.Draft) :
    (R.print d).toList = objectText .none (R.fields.map (R.draftMember d)) := by
  simp [print, objectText, commaSeparated, draftMember, entry, Function.comp_def]

variable [DecidableEq F]

/-- A record is read from exactly the texts of its own draft. -/
theorem parse_print_iff (hR : R.Labelled) {d : R.Draft} {row : R.Row} :
    R.parse (R.print d) = .ok row ↔ R.draft row = d := by
  constructor
  · intro h
    have hnamed : ∀ f, (R.draftMember d f).Named (R.label f) := fun f => spells_self (hR.plain f)
    have hnames : ∀ m ∈ R.fields.map (R.draftMember d), IsString m.name := by
      intro m hm
      obtain ⟨f, -, rfl⟩ := List.mem_map.1 hm
      exact (hnamed f).isString
    have hvalues : ∀ m ∈ R.fields.map (R.draftMember d), IsValue m.value.core := by
      intro m hm
      obtain ⟨f, -, rfl⟩ := List.mem_map.1 hm
      exact Shape.isValue_print _ _
    have htext : String.ofList (Blanks.none.text ++
        (objectText .none (R.fields.map (R.draftMember d)) ++ [])) = R.print d := by
      simp [← print_toList]
    funext f
    have htells := tells_of_parse hR .none .none hnames hvalues (by rwa [htext]) f
    obtain ⟨m, hm, hname, u, hu, hread⟩ := htells.member
    obtain ⟨g, -, rfl⟩ := List.mem_map.1 hm
    obtain rfl := hR.inj ((hnamed g).unique hname)
    exact Shape.draft_of_read hu hread
  · rintro rfl
    rw [print_draft]
    exact R.parse_write hR row

omit [DecidableEq F] in
/-- The drafts of records are those with a fitting value in every field. -/
theorem exists_draft_iff {d : R.Draft} : (∃ row, R.draft row = d) ↔ ∀ f, (R.shape f).Fits (d f) := by
  constructor
  · rintro ⟨row, rfl⟩ f
    exact Shape.exists_draft_iff.1 ⟨row f, rfl⟩
  · intro h
    refine ⟨fun f => (Shape.exists_draft_iff.2 (h f)).choose, funext fun f => ?_⟩
    exact (Shape.exists_draft_iff.2 (h f)).choose_spec

end Record

end Chip8.Json

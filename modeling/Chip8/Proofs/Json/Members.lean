-- SUMMARY: Which objects hold a record: each field in one member, in any order and among other members.
import Chip8.Proofs.Json.Layout

/-! # Members of an object

An object holds a record when each field is in one of its members and no field is
in two, in any order, under names that may be spelled with escapes and among any
members of other names. A list of all fields in order holds the record as well.
From such a text the record is read, and from no other object is any record read: a
field that is missing stays without a value, a field that comes twice finds its slot
taken. -/

namespace Chip8.Json

variable {F : Type} {R : Record F} {row : R.Row} {s rest after : List Char} {first : Bool}
  {m : Member} {members : List Member} {items : List Item} {f : F} {fs : List F}

/-- The name of a member spells this text. -/
def Member.Named (m : Member) (name : String) : Prop := Spells m.name name.toList

theorem Member.Named.isString {name : String} (h : m.Named name) : IsString m.name :=
  Spells.isString h

theorem Member.Named.unique {name name' : String} (h : m.Named name) (h' : m.Named name') :
    name = name' :=
  String.toList_inj.1 (Spells.unique h h')

/-- A member without blanks. -/
def Member.plain (name value : List Char) : Member := ⟨.none, name, .none, .plain value⟩

@[simp] theorem Member.text_plain (name value : List Char) :
    (Member.plain name value).text = '"' :: (name ++ '"' :: ':' :: value) := by
  simp [Member.text, plain, behindQuote]

/-! ## Arrangements of a record -/

namespace Record

/-- Members that hold these fields, one member for each, with members of other names among
    them. -/
inductive Arranges (R : Record F) (row : R.Row) : List Member → List F → Prop where
  | nil : R.Arranges row [] []
  | field {m : Member} {members : List Member} {f : F} {fs : List F}
      (hname : m.Named (R.label f)) (hvalue : (R.shape f).Layout (row f) m.value.core)
      (hmore : R.Arranges row members fs) : R.Arranges row (m :: members) (f :: fs)
  | other {m : Member} {members : List Member} {fs : List F} {name : String}
      (hname : m.Named name) (hother : ∀ f, R.label f ≠ name) (hvalue : IsValue m.value.core)
      (hmore : R.Arranges row members fs) : R.Arranges row (m :: members) fs

/-- Items that hold these fields, one after the other. -/
inductive Lists (R : Record F) (row : R.Row) : List Item → List F → Prop where
  | nil : R.Lists row [] []
  | item {i : Item} {items : List Item} {f : F} {fs : List F}
      (hvalue : (R.shape f).Layout (row f) i.core) (hmore : R.Lists row items fs) :
      R.Lists row (i :: items) (f :: fs)

/-- A text that holds a record: an object with every field once, in any order, or the list of
    all fields in order. -/
inductive Layout (R : Record F) (row : R.Row) : List Char → Prop where
  | object (a pad b : Blanks) {members : List Member} {fs : List F}
      (hmembers : R.Arranges row members fs) (hfields : fs.Perm R.fields) :
      R.Layout row (a.text ++ (objectText pad members ++ b.text))
  | list (a pad b : Blanks) {items : List Item} (hitems : R.Lists row items R.fields) :
      R.Layout row (a.text ++ (listText pad items ++ b.text))

theorem Lists.isValue (h : R.Lists row items fs) : ∀ i ∈ items, IsValue i.core := by
  induction h with
  | nil => simp
  | item hvalue _ ih => exact List.forall_mem_cons.2 ⟨hvalue.isValue, ih⟩

/-! ## The written form -/

/-- The member that is written for a field. -/
def member (R : Record F) (row : R.Row) (f : F) : Member :=
  .plain (R.label f).toList ((R.shape f).write (row f)).toList

theorem arranges_member (hR : R.Labelled) (row : R.Row) (fs : List F) :
    R.Arranges row (fs.map (R.member row)) fs := by
  induction fs with
  | nil => exact .nil
  | cons f fs ih => exact .field (spells_self (hR.plain f)) (Shape.layout_write _ _) ih

/-- The written form of a record is a layout of it. -/
theorem layout_write (hR : R.Labelled) (row : R.Row) : R.Layout row (R.write row).toList := by
  have htext : (R.write row).toList =
      Blanks.none.text ++ (objectText .none (R.fields.map (R.member row)) ++ Blanks.none.text) := by
    simp [write, objectText, commaSeparated, Function.comp_def, member, writeMember]
  rw [htext]
  exact .object _ _ _ (arranges_member hR row R.fields) (List.Perm.refl _)

/-! ## What an object says about a field -/

/-- One member says what the field holds, and no other member names the field. -/
structure Tells (R : Record F) (row : R.Row) (members : List Member) (f : F) : Prop where
  member : ∃ m ∈ members, m.Named (R.label f) ∧ ∃ u, endsNumber u = true ∧
    (R.shape f).read (m.value.core ++ u) = .ok (row f, u)
  once : members.Pairwise fun m n => ¬(m.Named (R.label f) ∧ n.Named (R.label f))

/-- The field is named by no member, or by two. -/
def Misnamed (R : Record F) (members : List Member) (f : F) : Prop :=
  (∀ m ∈ members, ¬m.Named (R.label f)) ∨
    ∃ m n, [m, n].Sublist members ∧ m.Named (R.label f) ∧ n.Named (R.label f)

theorem Tells.not_misnamed (h : R.Tells row members f) : ¬R.Misnamed members f := by
  rintro (hnone | ⟨m, n, hsub, hboth⟩)
  · obtain ⟨m, hm, hname, -⟩ := h.member
    exact hnone m hm hname
  · exact List.pairwise_iff_forall_sublist.1 h.once hsub hboth

theorem Tells.cons_of_not_named (h : R.Tells row members f) (hm : ¬m.Named (R.label f)) :
    R.Tells row (m :: members) f where
  member := by
    obtain ⟨n, hn, hread⟩ := h.member
    exact ⟨n, List.mem_cons_of_mem m hn, hread⟩
  once := List.pairwise_cons.2 ⟨fun _ _ hboth => hm hboth.1, h.once⟩

theorem tells_of_named {u : List Char} (hm : m.Named (R.label f)) (hu : endsNumber u = true)
    (hread : (R.shape f).read (m.value.core ++ u) = .ok (row f, u))
    (hmore : ∀ n ∈ members, ¬n.Named (R.label f)) : R.Tells row (m :: members) f where
  member := ⟨m, List.mem_cons_self, hm, u, hu, hread⟩
  once := by
    refine List.pairwise_cons.2 ⟨fun n hn hboth => hmore n hn hboth.2, ?_⟩
    refine List.pairwise_iff_forall_sublist.2 fun hsub hboth => ?_
    exact hmore _ (hsub.subset List.mem_cons_self) hboth.1

/-! ## One member -/

/-- A named member is next under its name, with its value behind the colon. -/
theorem nextName_named {name : String} (hat : AtMembers first s (m :: members) rest)
    (hname : m.Named name) :
    ∃ u v, AtMembers false (m.value.after.text ++ u) members rest ∧
      nextName first s = .ok (some name, v) ∧
      readColon v = .ok (m.value.before.text ++ (m.value.core ++ (m.value.after.text ++ u))) := by
  obtain ⟨u, hmore, hnext⟩ := hat.nextName_eq
  have hstring := readString_append hname (m.after.text ++ ':' :: (m.value.text ++ u))
  refine ⟨u, m.after.text ++ ':' :: (m.value.text ++ u), hmore, ?_, ?_⟩
  · simp [hnext, Member.behindQuote, hstring, Except.map]
  · have hcolon : isBlank ':' = false := rfl
    simp [readColon, skipBlanks_append, hcolon, Item.text]

variable [DecidableEq F] {slots : R.Slots}

theorem read_objectText (R : Record F) (a pad : Blanks) (members : List Member) (rest : List Char) :
    R.read (a.text ++ (objectText pad members ++ rest)) =
      R.readMembers R.noSlots true
        (pad.text ++ (commaSeparated (members.map Member.text) ++ '\x7d' :: rest)) := by
  have hopen : isBlank '\x7b' = false := rfl
  simp [read, skipBlanks_append, objectText, hopen]

/-! ## Reading arrangements -/

/-- The members of an arrangement fill the slots of their fields, which are still free in front
    of each member. -/
theorem readMembers_arranges (hR : R.Labelled) (hmembers : R.Arranges row members fs)
    (hfs : fs.Nodup) (slots : R.Slots) (hfree : ∀ f ∈ fs, slots f = none)
    (hat : AtMembers first s members rest) :
    R.readMembers slots first s =
      (R.finish (R.fillAll row slots fs)).map fun row => (row, rest) := by
  induction hmembers generalizing slots first s with
  | nil => exact readMembers_end hat.nextName_nil
  | @field m members f fs hname hvalue _ ih =>
    obtain ⟨hf, hfs⟩ := List.nodup_cons.1 hfs
    obtain ⟨u, v, hmore, hnext, hcolon⟩ := nextName_named hat hname
    have hread := Shape.read_layout hvalue m.value.before hmore.endsNumber
    rw [readMembers_field hnext (hR.field? f) (hfree f List.mem_cons_self) hcolon hread]
    apply ih hfs _ ?_ hmore
    intro g hg
    have hne : f ≠ g := fun h => hf (h ▸ hg)
    rw [fill_of_ne slots (row f) hne]
    exact hfree g (List.mem_cons_of_mem f hg)
  | @other m members fs name hname hother hvalue _ ih =>
    obtain ⟨u, v, hmore, hnext, hcolon⟩ := nextName_named hat hname
    have hskip := skipValue_append hvalue m.value.before hmore.endsNumber
    rw [readMembers_other hnext (field?_eq_none_iff.2 hother) hcolon hskip]
    exact ih hfs slots hfree hmore

/-- The items of a list fill the slots of their fields. -/
theorem readItems_lists (hitems : R.Lists row items fs) (slots : R.Slots) {taken : Nat}
    (hat : AtItems (taken == 0) s items rest) :
    ∃ u, skipBlanks u = ']' :: rest ∧
      R.readItems taken fs slots s = .ok (R.fillAll row slots fs, u) := by
  induction hitems generalizing slots taken s with
  | nil =>
    cases hat with
    | close hs => exact ⟨s, hs, rfl⟩
  | @item i items f fs hvalue _ ih =>
    cases hat with
    | @item _ _ v _ _ _ hnext hat =>
      have hlater : AtItems (taken + 1 == 0) (i.after.text ++ v) items rest := hat
      obtain ⟨u, hu, hread⟩ := ih (R.fill slots f (row f)) hlater
      have hitem : (R.shape f).read (i.core ++ (i.after.text ++ v)) =
          .ok (row f, i.after.text ++ v) :=
        Shape.read_layout hvalue Blanks.none hat.endsNumber
      refine ⟨u, hu, ?_⟩
      simp only [readItems, hnext, hitem]
      exact hread

theorem fillAll_fields (row : R.Row) (hfields : fs.Perm R.fields) (f : F) :
    R.fillAll row R.noSlots fs f = some (row f) :=
  fillAll_of_mem row _ (.inl (hfields.mem_iff.2 (R.complete f)))

/-- A record is read from every text that holds it. -/
theorem parse_layout (hR : R.Labelled) {text : List Char} (h : R.Layout row text) :
    R.parse (String.ofList text) = .ok row := by
  have hread : ∃ b : Blanks, R.read text = .ok (row, b.text) := by
    cases h with
    | object a pad b hmembers hfields =>
      refine ⟨b, ?_⟩
      rw [read_objectText, readMembers_arranges hR hmembers (hfields.nodup_iff.2 hR.distinct)
        R.noSlots (fun f _ => rfl) (atMembers_object pad _ b.text),
        finish_of_full (fillAll_fields row hfields)]
      rfl
    | list a pad b hitems =>
      refine ⟨b, ?_⟩
      have hopen : isBlank '[' = false := rfl
      have hat : AtItems ((0 : Nat) == 0) _ _ b.text := atItems_list pad hitems.isValue b.text
      obtain ⟨u, hu, hall⟩ := readItems_lists hitems R.noSlots hat
      have hfull := finish_of_full (fillAll_fields row (List.Perm.refl R.fields))
      simp [read, skipBlanks_append, listText, hopen, hall, closeList_of_close hu, hfull, Except.map]
  obtain ⟨b, hread⟩ := hread
  rw [parse, String.toList_ofList]
  simp [hread, skipBlanks_blanks]

/-- A record is read back from its written form. -/
theorem parse_write (hR : R.Labelled) (row : R.Row) : R.parse (R.write row) = .ok row := by
  have hparse := parse_layout hR (layout_write hR row)
  rwa [String.ofList_toList] at hparse

/-! ## Reading any members -/

/-- When members are read in the end, the name of the first spells some text. -/
theorem exists_named_of_readMembers {x : R.Row × List Char} (hname : IsString m.name)
    (hat : AtMembers first s (m :: members) rest) (h : R.readMembers slots first s = .ok x) :
    ∃ name, m.Named name := by
  obtain ⟨u, -, hnext⟩ := hat.nextName_eq
  cases hstring : readString (m.behindQuote ++ u) with
  | error e =>
    rw [hstring] at hnext
    rw [readMembers_eq, hnext] at h
    cases h
  | ok p =>
    obtain ⟨name, v⟩ := p
    rw [Member.behindQuote, List.append_assoc, List.cons_append] at hstring
    exact ⟨name, (spells_of_readString hname hstring).1⟩

/-- What the reader does with one member when it succeeds in the end: the value goes into the
    free slot of its field, or the member names no field. -/
theorem readMembers_member {y : R.Row × List Char} (hname : IsString m.name)
    (hvalue : IsValue m.value.core) (hat : AtMembers first s (m :: members) rest)
    (h : R.readMembers slots first s = .ok y) :
    ∃ u, AtMembers false u members rest ∧
      ((∃ f x, m.Named (R.label f) ∧ slots f = none ∧
          (R.shape f).read (m.value.core ++ u) = .ok (x, u) ∧
          R.readMembers (R.fill slots f x) false u = .ok y) ∨
        ((∀ f, ¬m.Named (R.label f)) ∧ R.readMembers slots false u = .ok y)) := by
  obtain ⟨name, hnamed⟩ := exists_named_of_readMembers hname hat h
  obtain ⟨u, v, hmore, hnext, hcolon⟩ := nextName_named hat hnamed
  refine ⟨_, hmore, ?_⟩
  rw [readMembers_eq] at h
  simp only [hnext, hcolon] at h
  split at h
  · next hfield =>
    right
    rw [skipValue_append hvalue m.value.before hmore.endsNumber] at h
    refine ⟨fun f hf => ?_, h⟩
    exact field?_eq_none_iff.1 hfield f (hf.unique hnamed)
  · next f hfield =>
    left
    obtain rfl := field?_eq_some hfield
    split at h
    · cases h
    · next hfree =>
      cases hread : (R.shape f).read
          (m.value.before.text ++ (m.value.core ++ (m.value.after.text ++ u))) with
      | error e =>
        rw [hread] at h
        cases h
      | ok p =>
        obtain ⟨x, w⟩ := p
        obtain rfl := Shape.rest_of_read hvalue m.value.before hmore.endsNumber hread
        rw [hread] at h
        rw [Shape.read_append] at hread
        exact ⟨f, x, hnamed, by simpa using hfree, hread, h⟩

/-- When members are read in the end, each field either had its value before and is named no
    more, or is told by one of the members. -/
theorem tells_of_readMembers (hR : R.Labelled) (hnames : ∀ m ∈ members, IsString m.name)
    (hvalues : ∀ m ∈ members, IsValue m.value.core) (hat : AtMembers first s members rest)
    (h : R.readMembers slots first s = .ok (row, after)) (f : F) :
    (slots f = some (row f) ∧ ∀ m ∈ members, ¬m.Named (R.label f)) ∨
      (slots f = none ∧ R.Tells row members f) := by
  induction members generalizing slots first s with
  | nil =>
    rw [readMembers_end hat.nextName_nil] at h
    obtain ⟨row', hfinish, hpair⟩ := map_eq_ok_iff.1 h
    obtain ⟨rfl, -⟩ := Prod.mk.inj hpair
    -- nothing more is named, so the row is what the slots held before
    exact .inl ⟨slots_of_finish hfinish f, by simp⟩
  | cons m members ih =>
    obtain ⟨hname, hnames⟩ := List.forall_mem_cons.1 hnames
    obtain ⟨hvalue, hvalues⟩ := List.forall_mem_cons.1 hvalues
    obtain ⟨u, hmore, hcases⟩ := readMembers_member hname hvalue hat h
    -- a member of another name adds nothing to what is known of the field
    have hskip : ∀ {slots : R.Slots}, ¬m.Named (R.label f) →
        R.readMembers slots false u = .ok (row, after) →
        (slots f = some (row f) ∧ ∀ n ∈ m :: members, ¬n.Named (R.label f)) ∨
          (slots f = none ∧ R.Tells row (m :: members) f) := by
      intro slots hm hread
      rcases ih hnames hvalues hmore hread with ⟨hslot, hnone⟩ | ⟨hslot, htells⟩
      · exact .inl ⟨hslot, List.forall_mem_cons.2 ⟨hm, hnone⟩⟩
      · exact .inr ⟨hslot, htells.cons_of_not_named hm⟩
    rcases hcases with ⟨g, x, hg, hfree, hread, hrun⟩ | ⟨hother, hrun⟩
    · by_cases hgf : g = f
      · subst hgf
        -- the slot is filled from here on, so no later member can name the field
        rcases ih hnames hvalues hmore hrun with ⟨hslot, hnone⟩ | ⟨hslot, -⟩
        · rw [fill_self, Option.some.injEq] at hslot
          rw [hslot] at hread
          exact .inr ⟨hfree, tells_of_named hg hmore.endsNumber hread hnone⟩
        · rw [fill_self] at hslot
          cases hslot
      · have hm : ¬m.Named (R.label f) := by
          intro hf
          exact hgf (hR.inj (hg.unique hf))
        have hbehind := hskip hm hrun
        rwa [fill_of_ne slots x hgf] at hbehind
    · exact hskip (hother f) hrun

/-- A record that is read from an object is told field by field by its members. -/
theorem tells_of_parse (hR : R.Labelled) (a pad : Blanks) (hnames : ∀ m ∈ members, IsString m.name)
    (hvalues : ∀ m ∈ members, IsValue m.value.core)
    (h : R.parse (String.ofList (a.text ++ (objectText pad members ++ rest))) = .ok row) (f : F) :
    R.Tells row members f := by
  rw [parse, String.toList_ofList, read_objectText] at h
  split at h
  · cases h
  · next hrun =>
    split at h
    · cases h
      rcases tells_of_readMembers hR hnames hvalues (atMembers_object pad members rest) hrun f with
        ⟨hslot, -⟩ | ⟨-, htells⟩
      · cases hslot
      · exact htells
    · cases h

/-- No record is read from an object that misnames a field. -/
theorem parse_of_misnamed (hR : R.Labelled) (a pad : Blanks)
    (hnames : ∀ m ∈ members, IsString m.name) (hvalues : ∀ m ∈ members, IsValue m.value.core)
    (hf : R.Misnamed members f) (rest : List Char) :
    ∃ cause, R.parse (String.ofList (a.text ++ (objectText pad members ++ rest))) =
      .error cause := by
  cases hparse : R.parse (String.ofList (a.text ++ (objectText pad members ++ rest))) with
  | error cause => exact ⟨cause, rfl⟩
  | ok row =>
    have htells := tells_of_parse hR a pad hnames hvalues hparse f
    exact absurd hf htells.not_misnamed

end Record

end Chip8.Json

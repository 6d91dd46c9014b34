-- SUMMARY: A key is what the last change that concerns it made of it, and symbols stand for keys in either case.
import Chip8.Proofs.Keypad

/-! # Changes of keys

A host presses and releases keys by their symbols, and sets them by their numbers. Each
change concerns one key or, if its symbol stands for none, no key at all. So what a key
is after many changes is told by the last of those that concern it, and the changes of
other keys could as well be missing or come in another order. -/

namespace Chip8

/-! ## Symbols -/

/-- Two symbols are the same, or the two cases of one letter of ASCII. -/
def SameLetter (c d : Char) : Prop :=
  c = d ∨ (65 ≤ c.toNat ∧ c.toNat ≤ 90 ∧ d.toNat = c.toNat + 32) ∨
    (65 ≤ d.toNat ∧ d.toNat ≤ 90 ∧ c.toNat = d.toNat + 32)

instance (c d : Char) : Decidable (SameLetter c d) := inferInstanceAs (Decidable (_ ∨ _ ∨ _))

variable {c d : Char} {key : Key}

theorem toNat_toLower (c : Char) :
    c.toLower.toNat = if 65 ≤ c.toNat ∧ c.toNat ≤ 90 then c.toNat + 32 else c.toNat := by
  unfold Char.toLower
  split
  · next hupper =>
    have hbounds : 65 ≤ c.toNat ∧ c.toNat ≤ 90 := hupper
    have hsum : (c.val + ('a'.val - 'A'.val)).toNat = (c.toNat + 32) % 2 ^ 32 :=
      UInt32.toNat_add _ _
    rw [if_pos hbounds]
    exact hsum.trans (Nat.mod_eq_of_lt (by omega))
  · next hother =>
    have hbounds : ¬(65 ≤ c.toNat ∧ c.toNat ≤ 90) := hother
    rw [if_neg hbounds]

theorem sameLetter_iff : SameLetter c d ↔ c.toLower = d.toLower := by
  rw [← Char.toNat_inj, toNat_toLower, toNat_toLower, SameLetter, ← Char.toNat_inj]
  split <;> split <;> omega

/-- The symbols of the table are in lower case. -/
theorem toLower_of_mem_keyTable : ∀ entry ∈ keyTable, entry.1.toLower = entry.1 := by decide

/-- No symbol of the table stands for two keys. -/
theorem eq_of_mem_keyTable :
    ∀ entry ∈ keyTable, ∀ other ∈ keyTable, entry.1 = other.1 → entry = other := by decide

theorem toNat_lt_of_mem_keyTable : ∀ entry ∈ keyTable, entry.1.toNat < 123 := by decide

/-- The search for a symbol ends at an entry with the symbol in lower case. -/
theorem entry_of_find? {entry : Char × Key}
    (h : (keyTable.find? fun entry => entry.1 == c.toLower) = some entry) :
    entry ∈ keyTable ∧ entry.1 = c.toLower := by
  have hbeq := List.find?_some h
  exact ⟨List.mem_of_find?_eq_some h, beq_iff_eq.1 hbeq⟩

/-- A symbol stands for a key if the table has it, in either case. -/
theorem keyOf?_eq_some_iff :
    keyOf? c = some key ↔ ∃ d, (d, key) ∈ keyTable ∧ SameLetter c d := by
  rw [keyOf?, Option.map_eq_some_iff]
  constructor
  · rintro ⟨entry, hfind, rfl⟩
    obtain ⟨hmem, hsymbol⟩ := entry_of_find? hfind
    refine ⟨entry.1, hmem, sameLetter_iff.2 ?_⟩
    rw [toLower_of_mem_keyTable entry hmem, hsymbol]
  · rintro ⟨d, hmem, hsame⟩
    have hlower : d = c.toLower :=
      (toLower_of_mem_keyTable _ hmem).symm.trans (sameLetter_iff.1 hsame).symm
    have hsome : (keyTable.find? fun entry => entry.1 == c.toLower).isSome :=
      List.find?_isSome.2 ⟨(d, key), hmem, beq_iff_eq.2 hlower⟩
    obtain ⟨entry, hfind⟩ := Option.isSome_iff_exists.1 hsome
    obtain ⟨hentry, hsymbol⟩ := entry_of_find? hfind
    -- no other entry has the symbol, so the search does not stop at another key
    have heq : entry = (d, key) :=
      eq_of_mem_keyTable entry hentry _ hmem (hsymbol.trans hlower.symm)
    exact ⟨entry, hfind, by rw [heq]⟩

theorem keyOf?_congr (h : SameLetter c d) : keyOf? c = keyOf? d := by
  rw [keyOf?, keyOf?, sameLetter_iff.1 h]

theorem keyOf?_eq_none (h : ∀ entry ∈ keyTable, ¬SameLetter c entry.1) : keyOf? c = none := by
  refine Option.eq_none_iff_forall_ne_some.2 fun key hkey => ?_
  obtain ⟨d, hmem, hsame⟩ := keyOf?_eq_some_iff.1 hkey
  exact h _ hmem hsame

/-- No symbol of the table is one beyond ASCII in another case. -/
theorem not_sameLetter_of_lt (h : 127 < c.toNat) :
    ∀ entry ∈ keyTable, ¬SameLetter c entry.1 := by
  intro entry hmem hsame
  have hlow := toNat_lt_of_mem_keyTable entry hmem
  rcases hsame with rfl | hupper | hlower <;> omega

/-! ## One change -/

/-- What a host does to keys. -/
inductive Change where
  | press (symbol : Char)
  | release (symbol : Char)
  | set (key : Key) (down : Bool)

namespace Change

/-- The key that a change concerns. -/
def key? : Change → Option Key
  | press symbol | release symbol => keyOf? symbol
  | set key _ => some key

/-- Whether a change presses its key or releases it. -/
def presses : Change → Bool
  | press _ => true
  | release _ => false
  | set _ down => down

end Change

/-- Of changes one after another, the last one that concerns a key. -/
def LastChange (changes : List Change) (key : Key) (c : Change) : Prop :=
  ∃ earlier later, changes = earlier ++ c :: later ∧ c.key? = some key ∧
    ∀ d ∈ later, d.key? ≠ some key

namespace Keypad

variable {p : Keypad} {changes : List Change}

def change (p : Keypad) : Change → Keypad
  | .press symbol => p.press symbol
  | .release symbol => p.release symbol
  | .set key down => p.set key down

/-- The keypad after changes, one after another. -/
def changeAll (p : Keypad) (changes : List Change) : Keypad := changes.foldl change p

theorem ext_get {q : Keypad} (h : ∀ key, p.down.get key = q.down.get key) : p = q := by
  obtain ⟨down⟩ := p
  obtain ⟨down'⟩ := q
  exact congrArg mk (Vector.ext fun k hk => h ⟨k, hk⟩)

theorem get_set (p : Keypad) (k key : Key) (down : Bool) :
    (p.set k down).down.get key = if k = key then down else p.down.get key := by
  have hset : (p.set k down).down.get key = if k.val = key.val then down else p.down.get key :=
    Vector.getElem_set k.isLt key.isLt
  rw [hset]
  simp only [Fin.ext_iff]

theorem press_eq (p : Keypad) (c : Char) :
    p.press c = ((keyOf? c).map fun key => p.set key true).getD p := by
  unfold press
  cases keyOf? c <;> rfl

theorem release_eq (p : Keypad) (c : Char) :
    p.release c = ((keyOf? c).map fun key => p.set key false).getD p := by
  unfold release
  cases keyOf? c <;> rfl

/-- A change sets its key, if it has one. -/
theorem change_eq (p : Keypad) (c : Change) :
    p.change c = (c.key?.map fun key => p.set key c.presses).getD p := by
  cases c with
  | press symbol => exact p.press_eq symbol
  | release symbol => exact p.release_eq symbol
  | set key down => rfl

/-- A change makes something of its own key, and of no other. -/
theorem get_change (p : Keypad) (c : Change) (key : Key) :
    (p.change c).down.get key = if c.key? = some key then c.presses else p.down.get key := by
  rw [change_eq]
  cases c.key? with
  | none => rfl
  | some k =>
    rw [Option.map_some, Option.getD_some, get_set]
    simp only [Option.some.injEq]

/-- Changes of different keys can be exchanged. -/
theorem change_comm {c d : Change} (h : c.key? ≠ d.key?) (p : Keypad) :
    (p.change c).change d = (p.change d).change c := by
  refine ext_get fun key => ?_
  simp only [get_change]
  by_cases hc : c.key? = some key
  · have hd : d.key? ≠ some key := fun hd => h (hc.trans hd.symm)
    rw [if_neg hd, if_pos hc, if_pos hc]
  · rw [if_neg hc, if_neg hc]

/-! ## Many changes -/

/-- The last change that concerns a key, found from the end. -/
def lastChange? (changes : List Change) (key : Key) : Option Change :=
  changes.reverse.find? fun c => c.key? = some key

theorem lastChange?_eq_some_iff {c : Change} :
    lastChange? changes key = some c ↔ LastChange changes key c := by
  rw [lastChange?, List.find?_eq_some_iff_append]
  simp only [decide_eq_true_eq, Bool.not_eq_true', decide_eq_false_iff_not]
  constructor
  · rintro ⟨hkey, later, earlier, hchanges, hlater⟩
    refine ⟨earlier.reverse, later.reverse, ?_, hkey, fun d hd => hlater d (List.mem_reverse.1 hd)⟩
    rw [List.reverse_eq_iff.1 hchanges, List.reverse_append, List.reverse_cons, List.append_assoc]
    rfl
  · rintro ⟨earlier, later, rfl, hkey, hlater⟩
    refine ⟨hkey, later.reverse, earlier.reverse, ?_, fun d hd => hlater d (List.mem_reverse.1 hd)⟩
    rw [List.reverse_append, List.reverse_cons, List.append_assoc]
    rfl

/-- A key is as its last change left it, or as it was at first if there is none. -/
theorem get_changeAll (p : Keypad) (changes : List Change) (key : Key) :
    (p.changeAll changes).down.get key =
      ((lastChange? changes key).map Change.presses).getD (p.down.get key) := by
  induction changes generalizing p with
  | nil => rfl
  | cons c changes ih =>
    have hlast : lastChange? (c :: changes) key =
        (lastChange? changes key).or (if c.key? = some key then some c else none) := by
      rw [lastChange?, List.reverse_cons, List.find?_append, List.find?_singleton]
      simp only [decide_eq_true_eq, lastChange?]
    have hrest : p.changeAll (c :: changes) = (p.change c).changeAll changes := rfl
    rw [hrest, ih, hlast, get_change]
    cases lastChange? changes key with
    | some d => rfl
    | none =>
      rw [Option.none_or]
      split <;> rfl

theorem get_changeAll_released (changes : List Change) (key : Key) :
    (released.changeAll changes).down.get key = true ↔
      ∃ c, LastChange changes key c ∧ c.presses = true := by
  have hreleased : released.down.get key = false := Vector.getElem_replicate key.isLt
  rw [get_changeAll, hreleased]
  simp only [← lastChange?_eq_some_iff]
  cases lastChange? changes key <;> simp

/-! ## The lowest key by numbers -/

theorem toNat_toByte (key : Key) : key.toByte.toNat = key.val := by
  have hkey := key.isLt
  exact Nat.mod_eq_of_lt (by omega)

theorem isDown_toByte (p : Keypad) (key : Key) : p.isDown key.toByte = p.down.get key := by
  have hlt : key.toByte.toNat < 16 := by
    rw [toNat_toByte]
    exact key.isLt
  rw [isDown, dif_pos hlt]
  simp only [toNat_toByte]
  rfl

/-- The lowest key has the least of all numbers that are down. -/
theorem lowest_iff_isDown :
    p.Lowest key ↔
      p.isDown key.toByte = true ∧ ∀ number, p.isDown number = true → key.toByte ≤ number := by
  constructor
  · rintro ⟨hdown, hleast⟩
    refine ⟨by rw [isDown_toByte, hdown], fun number hnumber => ?_⟩
    obtain ⟨k, hk, hkdown⟩ := isDown_iff.1 hnumber
    rw [UInt8.le_iff_toNat_le, toNat_toByte, ← hk]
    refine Nat.not_lt.1 fun hlt => ?_
    rw [hleast k hlt] at hkdown
    cases hkdown
  · rintro ⟨hdown, hleast⟩
    refine ⟨by rw [← isDown_toByte, hdown], fun k hk => Bool.eq_false_iff.2 fun hkdown => ?_⟩
    have hle := hleast k.toByte (by rw [isDown_toByte, hkdown])
    rw [UInt8.le_iff_toNat_le, toNat_toByte, toNat_toByte] at hle
    exact absurd hk (Nat.not_lt.2 hle)

theorem allUp_iff_isDown : p.AllUp ↔ ∀ number, p.isDown number = false := by
  constructor
  · intro h number
    refine Bool.eq_false_iff.2 fun hnumber => ?_
    obtain ⟨k, -, hdown⟩ := isDown_iff.1 hnumber
    rw [h k] at hdown
    cases hdown
  · intro h key
    rw [← isDown_toByte, h]

/-- After changes of a new keypad, a number is down if it is that of a key and the last change
    that concerns this key pressed it, and the lowest key is the least of these numbers. The
    two cases of a letter of ASCII do the same, any other symbol that is not in the table does
    nothing, and changes that do not concern the same key can be exchanged. -/
theorem down_iff_last_change (changes : List Change) :
    let last := released.changeAll changes
    (∀ number : UInt8, last.isDown number = true ↔
        ∃ key : Key, key.val = number.toNat ∧
          ∃ c, LastChange changes key c ∧ c.presses = true) ∧
      (∀ key : Key, last.lowest? = some key ↔
        last.isDown key.toByte = true ∧
          ∀ number, last.isDown number = true → key.toByte ≤ number) ∧
      (last.lowest? = none ↔ ∀ number, last.isDown number = false) ∧
      (∀ c d, SameLetter c d →
        ∀ p : Keypad, p.press c = p.press d ∧ p.release c = p.release d) ∧
      (∀ c, (∀ entry ∈ keyTable, ¬SameLetter c entry.1) ∨ 127 < c.toNat →
        ∀ p : Keypad, p.press c = p ∧ p.release c = p) ∧
      ∀ c d : Change, c.key? ≠ d.key? →
        ∀ p : Keypad, (p.change c).change d = (p.change d).change c := by
  intro last
  refine ⟨fun number => ?_, fun key => ?_, ?_, fun c d hsame p => ?_, fun c hc p => ?_,
    fun c d h p => change_comm h p⟩
  · rw [isDown_iff]
    simp only [last, get_changeAll_released]
  · rw [lowest?_eq_some_iff, lowest_iff_isDown]
  · rw [lowest?_eq_none_iff, allUp_iff_isDown]
  · rw [press_eq, press_eq, release_eq, release_eq, keyOf?_congr hsame]
    exact ⟨rfl, rfl⟩
  · have hnone : keyOf? c = none := keyOf?_eq_none (hc.elim id not_sameLetter_of_lt)
    rw [press_eq, release_eq, hnone]
    exact ⟨rfl, rfl⟩

/-- Keys 4 and 8 are pressed by symbol and key 8 is released by number, with a long s and a
    key that was up in between. -/
def strokes : List Change := [.press 'Q', .press 's', .set 8 false, .press 'ſ', .release 'x']

/-- The long s is not taken for another case of `s`, so of the two keys only 4 stays down. -/
theorem down_after_strokes :
    let last := released.changeAll strokes
    last.isDown 4 = true ∧ last.isDown 8 = false ∧ last.isDown 20 = false ∧
      last.lowest? = some 4 ∧
      (SameLetter 'Q' 'q' ∧ last.release 'Q' = last.release 'q') ∧
      (127 < 'ſ'.toNat ∧ last.press 'ſ' = last) ∧
      Change.key? (.press 'Q') ≠ Change.key? (.set 8 true) ∧
      (last.change (.press 'Q')).change (.set 8 true) =
        (last.change (.set 8 true)).change (.press 'Q') := by
  intro last
  obtain ⟨hdown, hlowest, -, hcase, hbeyond, hcomm⟩ := down_iff_last_change strokes
  have hq : LastChange strokes 4 (.press 'Q') := lastChange?_eq_some_iff.1 rfl
  have hfour : last.isDown 4 = true := (hdown 4).2 ⟨4, rfl, _, hq, rfl⟩
  have honly : ∀ number, last.isDown number = true → number = 4 := by
    intro number hnumber
    obtain ⟨key, hkey, c, hlast, hpresses⟩ := (hdown number).1 hnumber
    have hlast? := lastChange?_eq_some_iff.2 hlast
    have hfound : ∀ k : Key, ((lastChange? strokes k).map Change.presses) = some true → k = 4 := by
      decide
    have hkey4 : key = 4 := hfound key (by rw [hlast?, Option.map_some, hpresses])
    rw [hkey4] at hkey
    exact UInt8.toNat_inj.1 hkey.symm
  have hdecide : SameLetter 'Q' 'q' := by decide
  have hlong : 127 < 'ſ'.toNat := by decide
  have hkeys : Change.key? (.press 'Q') ≠ Change.key? (.set 8 true) := by decide
  refine ⟨hfour, Bool.eq_false_iff.2 fun h => absurd (honly 8 h) (by decide),
    Bool.eq_false_iff.2 fun h => absurd (honly 20 h) (by decide), (hlowest 4).2 ⟨hfour, ?_⟩,
    ⟨hdecide, (hcase _ _ hdecide last).2⟩, ⟨hlong, (hbeyond _ (.inr hlong) last).1⟩, hkeys,
    hcomm _ _ hkeys last⟩
  intro number hnumber
  rw [honly number hnumber]
  exact UInt8.le_refl _

end Keypad

end Chip8

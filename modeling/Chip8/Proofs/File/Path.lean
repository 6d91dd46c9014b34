-- SUMMARY: Which name a path leads to, what its stem is, and what becomes of a name in a directory.
import Chip8.File.Path

/-! # Names of paths

A path leads to a name: behind the last slash in front of it, and with nothing behind it
but slashes and single dots, which name nothing. A path of such alone leads nowhere. The
stem of a name is what stands before its last dot, if anything does. A name that is joined
to a directory is one more segment of it. -/

namespace Chip8.File.Path

variable {directory path name other stem extension idle cs : List Char} {c : Char}

/-- Slashes, each alone or with a single dot behind it. -/
inductive Idle : List Char → Prop
  | nil : Idle []
  | slash {rest : List Char} : Idle rest → Idle ('/' :: rest)
  | dot {rest : List Char} : Idle rest → Idle ('/' :: '.' :: rest)

/-- The last name of a path, which may be that of the directory above. -/
structure LeadsTo (path name : List Char) : Prop where
  place : ∃ front idle, path = front ++ name ++ idle ∧ Idle idle ∧
    (front = [] ∨ front.getLast? = some '/')
  whole : '/' ∉ name
  named : name ≠ [] ∧ name ≠ ['.']

/-- A path that leads nowhere, with or without a single dot in front. -/
def Bare (path : List Char) : Prop := ∃ idle, Idle idle ∧ (path = idle ∨ path = '.' :: idle)

/-- A name is its stem, or its stem with an extension. A dot in front begins no extension. -/
def StemOf (name stem : List Char) : Prop :=
  (stem ≠ [] ∧ ∃ extension, '.' ∉ extension ∧ name = stem ++ '.' :: extension) ∨
    (stem = name ∧ '.' ∉ name.tail)

/-! ## Segments -/

theorem split_eq_splitOn (path : List Char) : split path = path.splitOn '/' := by
  induction path with
  | nil => rfl
  | cons c cs ih =>
    rw [split, List.splitOn_cons_eq_if_modifyHead, ih]
    by_cases hc : c = '/'
    · rw [if_pos hc, if_pos (beq_iff_eq.2 hc)]
    · rw [if_neg hc, if_neg (mt beq_iff_eq.1 hc)]
      obtain ⟨segment, more, hsplit⟩ := List.exists_cons_of_ne_nil (List.splitOn_ne_nil '/' cs)
      rw [hsplit]
      rfl

theorem segments_append_slash (front path : List Char) :
    segments (front ++ '/' :: path) = segments front ++ segments path := by
  simp only [segments, split_eq_splitOn, List.splitOn_append_cons_self, List.filter_append]

/-- A name without a slash is a single segment. -/
theorem segments_name (hwhole : '/' ∉ name) (hnamed : name ≠ [] ∧ name ≠ ['.']) :
    segments name = [name] := by
  rw [segments, split_eq_splitOn, List.splitOn_eq_singleton hwhole]
  exact List.filter_eq_self.2 fun _ hmem => decide_eq_true (List.mem_singleton.1 hmem ▸ hnamed)

theorem segments_dot : segments ['.'] = [] := rfl

/-- Slashes and single dots behind a path name nothing. -/
theorem segments_append_idle (h : Idle idle) (path : List Char) :
    segments (path ++ idle) = segments path := by
  induction h generalizing path with
  | nil => rw [List.append_nil]
  | @slash rest _ ih =>
    have hslash : path ++ '/' :: rest = (path ++ ['/']) ++ rest := List.append_cons path '/' rest
    rw [hslash, ih, segments_append_slash]
    exact List.append_nil _
  | @dot rest _ ih =>
    have hdot : path ++ '/' :: '.' :: rest = (path ++ ['/', '.']) ++ rest := by simp
    rw [hdot, ih, segments_append_slash, segments_dot, List.append_nil]

theorem Bare.segments_eq (h : Bare path) : segments path = [] := by
  obtain ⟨idle, hidle, rfl | rfl⟩ := h
  · exact segments_append_idle hidle []
  · exact segments_append_idle hidle ['.']

theorem LeadsTo.getLast?_segments (h : LeadsTo path name) :
    (segments path).getLast? = some name := by
  obtain ⟨⟨front, idle, rfl, hidle, hfront⟩, hwhole, hnamed⟩ := h
  rw [segments_append_idle hidle]
  have hname : segments name = [name] := segments_name hwhole hnamed
  rcases hfront with rfl | hslash
  · rw [List.nil_append, hname, List.getLast?_singleton]
  · obtain ⟨above, rfl⟩ := List.getLast?_eq_some_iff.1 hslash
    rw [List.append_assoc, List.singleton_append, segments_append_slash, hname,
      List.getLast?_concat]

/-! ## The name of a path -/

/-- A text is cut at the last place of a character. -/
theorem exists_last (h : c ∈ cs) : ∃ front back, cs = front ++ c :: back ∧ c ∉ back := by
  obtain ⟨back, front, hcs, hback⟩ := List.eq_append_cons_of_mem (List.mem_reverse.2 h)
  refine ⟨front.reverse, back.reverse, ?_, mt List.mem_reverse.1 hback⟩
  rw [List.reverse_eq_iff.1 hcs, List.reverse_append, List.reverse_cons, List.append_assoc]
  rfl

theorem Idle.concat_slash (h : Idle idle) : Idle (idle ++ ['/']) := by
  induction h with
  | nil => exact .slash .nil
  | slash _ ih => exact .slash ih
  | dot _ ih => exact .dot ih

theorem Idle.concat_dot (h : Idle idle) : Idle (idle ++ ['/', '.']) := by
  induction h with
  | nil => exact .dot .nil
  | slash _ ih => exact .slash ih
  | dot _ ih => exact .dot ih

/-- What names nothing can be added to a path. -/
theorem LeadsTo.append_idle {more : List Char} (h : LeadsTo path name)
    (hmore : ∀ idle, Idle idle → Idle (idle ++ more)) : LeadsTo (path ++ more) name := by
  obtain ⟨⟨front, idle, rfl, hidle, hfront⟩, hwhole, hnamed⟩ := h
  exact ⟨⟨front, idle ++ more, List.append_assoc _ _ _, hmore idle hidle, hfront⟩, hwhole, hnamed⟩

theorem Bare.append_idle {more : List Char} (h : Bare path)
    (hmore : ∀ idle, Idle idle → Idle (idle ++ more)) : Bare (path ++ more) := by
  obtain ⟨idle, hidle, rfl | rfl⟩ := h
  · exact ⟨_, hmore _ hidle, .inl rfl⟩
  · exact ⟨_, hmore _ hidle, .inr rfl⟩

/-- Every path leads to a name or nowhere. -/
theorem bare_or_leadsTo (path : List Char) : Bare path ∨ ∃ name, LeadsTo path name := by
  by_cases hslash : '/' ∈ path
  · obtain ⟨above, last, rfl, hwhole⟩ := exists_last hslash
    by_cases hnamed : last ≠ [] ∧ last ≠ ['.']
    · right
      refine ⟨last, ⟨above ++ ['/'], [], by simp, .nil, .inr List.getLast?_concat⟩, hwhole, hnamed⟩
    · -- nothing is named behind the last slash, so what stands above it decides
      have hmore : ∀ idle, Idle idle → Idle (idle ++ '/' :: last) := by
        intro idle hidle
        rcases Decidable.not_and_iff_not_or_not.1 hnamed with hempty | hdot
        · rw [Decidable.not_not.1 hempty]
          exact hidle.concat_slash
        · rw [Decidable.not_not.1 hdot]
          exact hidle.concat_dot
      rcases bare_or_leadsTo above with hbare | ⟨name, hleads⟩
      · exact .inl (hbare.append_idle hmore)
      · exact .inr ⟨name, hleads.append_idle hmore⟩
  · by_cases hnamed : path ≠ [] ∧ path ≠ ['.']
    · exact .inr ⟨path, ⟨[], [], by simp, .nil, .inl rfl⟩, hslash, hnamed⟩
    · left
      rcases Decidable.not_and_iff_not_or_not.1 hnamed with hempty | hdot
      · exact ⟨[], .nil, .inl (Decidable.not_not.1 hempty)⟩
      · exact ⟨[], .nil, .inr (Decidable.not_not.1 hdot)⟩
termination_by path.length
decreasing_by simp only [*, List.length_append, List.length_cons]; omega

theorem getLast?_segments_eq_some_iff :
    (segments path).getLast? = some name ↔ LeadsTo path name := by
  constructor
  · intro h
    rcases bare_or_leadsTo path with hbare | ⟨other, hleads⟩
    · rw [hbare.segments_eq] at h
      cases h
    · rw [hleads.getLast?_segments] at h
      exact Option.some.inj h ▸ hleads
  · exact LeadsTo.getLast?_segments

theorem getLast?_segments_eq_none_iff : (segments path).getLast? = none ↔ Bare path := by
  constructor
  · intro h
    rcases bare_or_leadsTo path with hbare | ⟨name, hleads⟩
    · exact hbare
    · rw [hleads.getLast?_segments] at h
      cases h
  · intro hbare
    rw [hbare.segments_eq]
    rfl

theorem fileName?_eq_some_iff :
    fileName? path = some name ↔ LeadsTo path name ∧ name ≠ ['.', '.'] := by
  rw [fileName?, Option.filter_eq_some_iff, getLast?_segments_eq_some_iff, decide_eq_true_eq]

theorem fileName?_eq_none_iff :
    fileName? path = none ↔ Bare path ∨ LeadsTo path ['.', '.'] := by
  rw [← getLast?_segments_eq_none_iff, ← getLast?_segments_eq_some_iff, fileName?]
  cases (segments path).getLast? with
  | none => simp
  | some name => simp [Option.filter_some]

/-! ## The stem of a name -/

/-- Read backwards, what has no dot is passed over. -/
theorem dropWhile_reverse_append (h : '.' ∉ extension) (rest : List Char) :
    (extension.reverse ++ rest).dropWhile (· ≠ '.') = rest.dropWhile (· ≠ '.') := by
  refine List.dropWhile_append_of_pos fun x hx => decide_eq_true ?_
  rintro rfl
  exact h (List.mem_reverse.1 hx)

theorem stemOfName_of_no_dot (h : '.' ∉ name) : stemOfName name = name := by
  have hdrop : name.reverse.dropWhile (· ≠ '.') = [] := by
    rw [← List.append_nil name.reverse, dropWhile_reverse_append h]
    rfl
  rw [stemOfName, hdrop]

theorem stemOfName_of_dot (stem : List Char) (h : '.' ∉ extension) :
    stemOfName (stem ++ '.' :: extension) = if stem = [] then '.' :: extension else stem := by
  have hdrop : (stem ++ '.' :: extension).reverse.dropWhile (· ≠ '.') = '.' :: stem.reverse := by
    rw [List.reverse_append, List.reverse_cons, List.append_assoc, dropWhile_reverse_append h]
    rfl
  rw [stemOfName, hdrop]
  simp only [List.reverse_eq_nil_iff, List.reverse_reverse]
  split
  · next hempty => rw [hempty, List.nil_append]
  · rfl

theorem stemOf_stemOfName (name : List Char) : StemOf name (stemOfName name) := by
  by_cases hdot : '.' ∈ name
  · obtain ⟨stem, extension, rfl, hlast⟩ := exists_last hdot
    rw [stemOfName_of_dot stem hlast]
    split
    · next hempty =>
      rw [hempty]
      exact .inr ⟨rfl, hlast⟩
    · next hstem => exact .inl ⟨hstem, extension, hlast, rfl⟩
  · rw [stemOfName_of_no_dot hdot]
    exact .inr ⟨rfl, mt List.mem_of_mem_tail hdot⟩

theorem StemOf.stemOfName_eq (h : StemOf name stem) : stemOfName name = stem := by
  rcases h with ⟨hstem, extension, hlast, rfl⟩ | ⟨rfl, hdot⟩
  · rw [stemOfName_of_dot stem hlast, if_neg hstem]
  · cases stem with
    | nil => rfl
    | cons c rest =>
      by_cases hc : c = '.'
      · rw [hc]
        exact stemOfName_of_dot [] hdot
      · refine stemOfName_of_no_dot fun hmem => ?_
        rcases List.mem_cons.1 hmem with hfirst | hrest
        · exact hc hfirst.symm
        · exact hdot hrest

theorem stemOfName_eq_iff : stemOfName name = stem ↔ StemOf name stem := by
  constructor
  · rintro rfl
    exact stemOf_stemOfName name
  · exact StemOf.stemOfName_eq

/-- A stem is a part of its name. -/
theorem StemOf.mem (h : StemOf name stem) (hc : c ∈ stem) : c ∈ name := by
  rcases h with ⟨-, extension, -, rfl⟩ | ⟨rfl, -⟩
  · exact List.mem_append_left _ hc
  · exact hc

/-! ## Names in a directory -/

/-- A path seen from a directory. One that starts at the root stands by itself. -/
def behind (directory path : List Char) : List Char :=
  if path.head? = some '/' then path else join directory path

theorem join_eq (directory name : List Char) :
    join directory name = directory ++
      (if directory = [] ∨ directory.getLast? = some '/' then [] else ['/']) ++ name := by
  rw [join]
  split <;> simp

theorem join_inj : join directory name = join directory other ↔ name = other := by
  rw [join_eq, join_eq, List.append_right_inj]

/-- A name adds one segment to those of its directory. -/
theorem segments_join (hwhole : '/' ∉ name) (hnamed : name ≠ [] ∧ name ≠ ['.']) :
    segments (join directory name) = segments directory ++ [name] := by
  have hname : segments name = [name] := segments_name hwhole hnamed
  rw [join]
  split
  · next hjoined =>
    rcases hjoined with rfl | hslash
    · exact hname
    · obtain ⟨above, rfl⟩ := List.getLast?_eq_some_iff.1 hslash
      have hempty : segments (above ++ ['/']) = segments above :=
        segments_append_idle (.slash .nil) above
      rw [hempty, List.append_assoc, List.singleton_append, segments_append_slash, hname]
  · rw [segments_append_slash, hname]

theorem head?_ne_of_whole (hwhole : '/' ∉ name) : name.head? ≠ some '/' :=
  fun h => hwhole (List.mem_of_head? h)

/-- It is the directory that starts at the root or not. -/
theorem head?_join_iff (hwhole : '/' ∉ name) :
    (join directory name).head? = some '/' ↔ directory.head? = some '/' := by
  cases directory with
  | nil =>
    rw [join, if_pos (.inl rfl), List.nil_append]
    exact iff_of_false (head?_ne_of_whole hwhole) nofun
  | cons c rest =>
    rw [join_eq, List.append_assoc, List.cons_append, List.head?_cons, List.head?_cons]

end Chip8.File.Path

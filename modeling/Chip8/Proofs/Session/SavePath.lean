-- SUMMARY: The file for saved states lies directly in its directory, and only the stem of the program names it.
import Chip8.Proofs.File.Path
import Chip8.Session

/-! # The path of saved states

A program is called by the stem of the name that its path leads to. The file for its
states has this stem and an extension for a name, which is one segment behind those of
the directory, wherever the path of the program leads. -/

namespace Chip8

open File.Path

variable {program other stem stem' : List Char}

/-- What a program is called: the stem of the name that its path leads to, or `rom` if that
    is no name or the one of the directory above. -/
def Called (program stem : List Char) : Prop :=
  (∃ name, LeadsTo program name ∧ name ≠ ['.', '.'] ∧ StemOf name stem) ∨
    ((Bare program ∨ LeadsTo program ['.', '.']) ∧ stem = ['r', 'o', 'm'])

theorem called_iff : Called program stem ↔ (stem? program).getD ['r', 'o', 'm'] = stem := by
  rw [stem?]
  constructor
  · rintro (⟨name, hleads, hname, hstem⟩ | ⟨hnone, rfl⟩)
    · rw [fileName?_eq_some_iff.2 ⟨hleads, hname⟩]
      exact stemOfName_eq_iff.2 hstem
    · rw [fileName?_eq_none_iff.2 hnone]
      rfl
  · intro h
    cases hfile : fileName? program with
    | none =>
      rw [hfile] at h
      exact .inr ⟨fileName?_eq_none_iff.1 hfile, h.symm⟩
    | some name =>
      rw [hfile] at h
      obtain ⟨hleads, hname⟩ := fileName?_eq_some_iff.1 hfile
      exact .inl ⟨name, hleads, hname, stemOfName_eq_iff.1 h⟩

theorem Called.unique (h : Called program stem) (h' : Called program stem') : stem = stem' :=
  (called_iff.1 h).symm.trans (called_iff.1 h')

theorem exists_called (program : List Char) : ∃ stem, Called program stem :=
  ⟨_, called_iff.2 rfl⟩

theorem Called.whole (h : Called program stem) : '/' ∉ stem := by
  rcases h with ⟨name, hleads, -, hstem⟩ | ⟨-, rfl⟩
  · exact fun hslash => hleads.whole (hstem.mem hslash)
  · decide

/-- Programs whose paths have the same last segment are called the same. -/
theorem Called.congr (h : Called program stem)
    (hlast : (segments other).getLast? = (segments program).getLast?) : Called other stem := by
  rw [called_iff, stem?, fileName?, hlast]
  exact called_iff.1 h

/-- The extension of files with saved states. -/
def saveExtension : List Char := ".json".toList

theorem savePath_eq {program : String} (h : Called program.toList stem) (directory : String) :
    savePath directory program = String.ofList (join directory.toList (stem ++ saveExtension)) := by
  rw [← called_iff.1 h]
  rfl

theorem toList_savePath {program : String} (h : Called program.toList stem) (directory : String) :
    (savePath directory program).toList = join directory.toList (stem ++ saveExtension) := by
  rw [savePath_eq h, String.toList_ofList]

theorem savePath_congr {program other : String} (h : Called program.toList stem)
    (h' : Called other.toList stem) (directory : String) :
    savePath directory program = savePath directory other := by
  rw [savePath_eq h, savePath_eq h']

/-- With its extension a stem is a single segment. -/
theorem Called.segment (h : Called program stem) :
    '/' ∉ stem ++ saveExtension ∧ stem ++ saveExtension ≠ [] ∧ stem ++ saveExtension ≠ ['.'] := by
  have hlength : (stem ++ saveExtension).length = stem.length + 5 := List.length_append
  refine ⟨?_, ?_, ?_⟩
  · rw [List.mem_append]
    exact fun hslash => hslash.elim h.whole (by decide)
  · intro hempty
    rw [hempty] at hlength
    cases hlength
  · intro hdot
    rw [hdot, List.length_singleton] at hlength
    omega

/-- The path for the states of a program is the directory, a slash if it lacks one, and the
    stem of the program with an extension. This name is a single segment and never starts at
    the root, so the path leads into the directory and nowhere else. Slashes and single dots
    behind the path of the program make no difference to it, nor does what stands in front of
    the name that it leads to. Programs share their file exactly if they are called the same,
    so each is called one thing only. -/
theorem savePath_inside (directory : String) :
    (∀ program : String, ∃ stem, Called program.toList stem ∧ '/' ∉ stem ∧
        let name := stem ++ ".json".toList
        let path := (savePath directory program).toList
        path = directory.toList ++
            (if directory = "" ∨ directory.toList.getLast? = some '/' then [] else ['/']) ++ name ∧
          path = behind directory.toList name ∧
          segments path = segments directory.toList ++ [name] ∧
          (path.head? = some '/' ↔ directory.toList.head? = some '/')) ∧
      (∀ program idle : String, Idle idle.toList →
        savePath directory (program ++ idle) = savePath directory program) ∧
      (∀ front name : String, name ≠ "" → name ≠ "." → '/' ∉ name.toList →
        savePath directory (front ++ "/" ++ name) = savePath directory name) ∧
      ∀ (program other : String) (stem stem' : List Char),
        Called program.toList stem → Called other.toList stem' →
          (savePath directory program = savePath directory other ↔ stem = stem') := by
  refine ⟨fun program => ?_, fun program idle hidle => ?_, fun front name hname hdot hwhole => ?_,
    fun program other stem stem' h h' => ?_⟩
  · obtain ⟨stem, hstem⟩ := exists_called program.toList
    obtain ⟨hwhole, hnamed⟩ := hstem.segment
    refine ⟨stem, hstem, hstem.whole, ?_⟩
    have hpath := toList_savePath hstem directory
    simp only [hpath, ← String.toList_eq_nil_iff]
    refine ⟨join_eq _ _, ?_, segments_join hwhole hnamed, head?_join_iff hwhole⟩
    exact (if_neg (head?_ne_of_whole hwhole)).symm
  · obtain ⟨stem, hstem⟩ := exists_called program.toList
    refine savePath_congr (hstem.congr ?_) hstem directory
    rw [String.toList_append, segments_append_idle hidle]
  · obtain ⟨stem, hstem⟩ := exists_called name.toList
    refine savePath_congr (hstem.congr ?_) hstem directory
    have hnamed : name.toList ≠ [] ∧ name.toList ≠ ['.'] :=
      ⟨mt String.toList_eq_nil_iff.1 hname, fun h => hdot (String.toList_inj.1 h)⟩
    have hpath : (front ++ "/" ++ name).toList = front.toList ++ '/' :: name.toList := by
      rw [String.toList_append, String.toList_append, List.append_assoc]
      rfl
    rw [hpath, segments_append_slash, segments_name hwhole hnamed, List.getLast?_concat]
    rfl
  · rw [savePath_eq h, savePath_eq h', String.ofList_inj, join_inj, List.append_left_inj]

/-- Two programs above the directory that differ in their extensions share a file inside of
    it, and a program without a name has the same one as `rom`. -/
theorem savePath_of_pongs :
    savePath "save" "../pong.old.ch8" = "save/pong.old.json" ∧
      savePath "save" ("pong.old" ++ "//.") = savePath "save" "pong.old" ∧
      savePath "save" ("/games" ++ "/" ++ "pong.old") = savePath "save" "pong.old" ∧
      savePath "save" "../pong.ch8" = savePath "save" "pong.old" ∧
      savePath "save" "games/.." = savePath "save" "rom" := by
  obtain ⟨hinside, hidle, hfront, hshare⟩ := savePath_inside "save"
  have hpong : Called "pong.old".toList "pong".toList := called_iff.2 rfl
  refine ⟨?_, hidle _ _ (.slash (.dot .nil)), hfront _ _ (by decide) (by decide) (by decide),
    (hshare _ _ _ _ (called_iff.2 rfl) hpong).2 rfl,
    (hshare _ _ _ _ (called_iff.2 rfl) (called_iff.2 rfl)).2 rfl⟩
  obtain ⟨stem, hstem, -, hpath, -⟩ := hinside "../pong.old.ch8"
  have hold : stem = "pong.old".toList := hstem.unique (called_iff.2 rfl)
  rw [hold] at hpath
  exact String.toList_inj.1 hpath

end Chip8

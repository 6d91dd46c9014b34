/-! # Paths

Names of files with their directories, divided by slashes. Segments that are
empty or a single dot name nothing. -/

namespace Chip8.File.Path

/-- The pieces of a text between its slashes. There is always at least one. -/
def split : List Char → List (List Char)
  | [] => [[]]
  | c :: cs =>
    if c = '/' then [] :: split cs
    else match split cs with
      | [] => [[c]]
      | segment :: more => (c :: segment) :: more

/-- The segments that name something. -/
def segments (path : List Char) : List (List Char) :=
  (split path).filter fun s => s ≠ [] ∧ s ≠ ['.']

/-- The name of the file that a path leads to. The root and parents of
    directories have none. -/
def fileName? (path : List Char) : Option (List Char) :=
  (segments path).getLast?.filter (· ≠ ['.', '.'])

/-- The part of a name before its last dot, when something stands there. -/
def stemOfName (name : List Char) : List Char :=
  let back := name.reverse
  match back.dropWhile (· ≠ '.') with
  | [] => name
  | _ :: before => if before = [] then name else before.reverse

/-- The name that a path leads to, without its extension. -/
def stem? (path : List Char) : Option (List Char) := (fileName? path).map stemOfName

/-- A name in a directory. A slash is put between them unless the directory is
    empty or has one already. -/
def join (directory name : List Char) : List Char :=
  if directory = [] ∨ directory.getLast? = some '/' then directory ++ name
  else directory ++ '/' :: name

/-! ## Directories -/

/-- A path, written backwards, without the slashes and single dots at its end
    that name nothing. The root and a dot in front stay. -/
def dropIdle : List Char → List Char
  | '/' :: c :: rest => dropIdle (c :: rest)
  | '.' :: '/' :: rest => dropIdle ('/' :: rest)
  | back => back

theorem length_dropIdle_le (back : List Char) : (dropIdle back).length ≤ back.length := by
  fun_induction dropIdle back with
  | case1 c rest ih => simp only [List.length_cons] at ih ⊢; omega
  | case2 rest ih => simp only [List.length_cons] at ih ⊢; omega
  | case3 => exact Nat.le.refl

/-- The directory that the last name of a path stands in, as it is written. The
    root and the empty path have none. -/
def directory? (path : List Char) : Option (List Char) :=
  match dropIdle path.reverse with
  | [] | ['/'] => none
  | _ :: back => some (dropIdle (back.dropWhile (· ≠ '/'))).reverse

theorem length_directory?_lt {path above : List Char} (h : directory? path = some above) :
    above.length < path.length := by
  have idle := length_dropIdle_le path.reverse
  unfold directory? at h
  split at h
  · cases h
  · cases h
  · next back _ shape =>
    rw [shape] at idle
    have short := length_dropIdle_le (back.dropWhile (· ≠ '/'))
    have drop := (List.dropWhile_sublist (l := back) (· ≠ '/')).length_le
    cases h
    simp only [List.length_reverse, List.length_cons] at *
    omega

/-- A path and the directories above it, innermost first, as long as there is
    one above. -/
def ancestors (path : List Char) : List (List Char) :=
  match _found : directory? path with
  | none => []
  | some above => path :: ancestors above
termination_by path.length
decreasing_by exact length_directory?_lt _found

end Chip8.File.Path

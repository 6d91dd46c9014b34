import Chip8.File.Path
import Chip8.File.Store

/-! # Files in memory

A tree of directories and files, with a current directory. Names are followed
from left to right, and each step has to start in a directory. -/

namespace Chip8.File

inductive Node where
  | file (contents : ByteArray)
  | directory

/-- The names that lead from the root to a place. -/
abbrev Place := List String

structure Tree where
  /-- What lies at a place. The root is always there. -/
  entries : List (Place × Node)
  current : Place

namespace Tree

/-- A tree with nothing but its current directory. -/
def empty : Tree := ⟨[(["work"], .directory)], ["work"]⟩

def find? (t : Tree) (place : Place) : Option Node :=
  if place = [] then some .directory else t.entries.lookup place

def isDirectory (t : Tree) (place : Place) : Bool :=
  match t.find? place with
  | some .directory => true
  | _ => false

def put (t : Tree) (place : Place) (node : Node) : Tree :=
  { t with entries := (place, node) :: t.entries.filter (·.1 != place) }

/-- The most bytes of a name, and of a whole path. -/
def nameLimit : Nat := 255

def pathLimit : Nat := 4095

/-- The names of a path. -/
def names (path : String) : List String :=
  ((Path.split path.toList).filter (· ≠ [])).map String.ofList

/-- Whether a path asks for a directory by ending in a slash. -/
def endsInSlash (path : String) : Bool := path.toList.getLast? = some '/'

/-- Where a path starts. -/
def origin (t : Tree) (path : String) : Place :=
  if path.toList.head? = some '/' then [] else t.current

/-- The refusal of a path that no system looks at. -/
def pathFault? (path : String) : Option Fault :=
  if path.toList.contains '\x00' then some .nullInName
  else if path = "" then some .notFound
  else if pathLimit < path.utf8ByteSize then some .nameTooLong
  else none

/-- The place of a name seen from a place, which may not be taken yet. -/
def towards (t : Tree) (place : Place) (name : String) : Except Fault Place :=
  if !t.isDirectory place then .error .notDirectory
  else if name = "." then .ok place
  else if name = ".." then .ok place.dropLast
  else if nameLimit < name.utf8ByteSize then .error .nameTooLong
  else .ok (place ++ [name])

/-- Follows names to a place where something lies. -/
def follow (t : Tree) : Place → List String → Except Fault Place
  | place, [] => .ok place
  | place, name :: more => do
    let next ← t.towards place name
    if (t.find? next).isNone then .error .notFound else t.follow next more

/-- The contents of the file at a path. -/
def read (t : Tree) (path : String) : Except Fault ByteArray :=
  match pathFault? path with
  | some fault => .error fault
  | none =>
    match t.follow (t.origin path) (names path) with
    | .error fault => .error fault
    | .ok place =>
      match t.find? place with
      | some (.file contents) => if endsInSlash path then .error .notDirectory else .ok contents
      | some .directory => .error .isDirectory
      | none => .error .notFound

/-- Puts the contents of the file at a path. -/
def write (t : Tree) (path : String) (contents : ByteArray) : Except Fault Tree :=
  match pathFault? path with
  | some fault => .error fault
  | none =>
    let all := names path
    match all.getLast? with
    | none => .error .isDirectory
    | some last => do
      let place ← t.follow (t.origin path) all.dropLast
      if !t.isDirectory place then .error .notDirectory
      else if last = "." ∨ last = ".." ∨ endsInSlash path then .error .isDirectory
      else
        let target ← t.towards place last
        if t.isDirectory target then .error .isDirectory
        else .ok (t.put target (.file contents))

/-! ## Directories -/

/-- Whether a path leads to a directory. -/
def leadsToDirectory (t : Tree) (path : String) : Bool :=
  (pathFault? path).isNone &&
    match t.follow (t.origin path) (names path) with
    | .ok place => t.isDirectory place
    | .error _ => false

/-- Makes the directory at a path, in one that is there. -/
def makeDirectory (t : Tree) (path : String) : Except Fault Tree :=
  match pathFault? path with
  | some fault => .error fault
  | none =>
    let all := names path
    match all.getLast? with
    | none => .error .exists
    | some last => do
      let place ← t.follow (t.origin path) all.dropLast
      if !t.isDirectory place then .error .notDirectory
      else if last = "." ∨ last = ".." then .error .exists
      else
        let target ← t.towards place last
        if (t.find? target).isSome then .error .exists else .ok (t.put target .directory)

/-- Goes up along paths, innermost first, until a directory is made or is
    there. The answer is the paths on the way, which are still to be made. -/
def makeOutermost (t : Tree) : List String → Except Fault (List String) × Tree
  | [] => (.ok [], t)
  | path :: above =>
    match t.makeDirectory path with
    | .ok after => (.ok [], after)
    | .error .notFound =>
      let (result, after) := t.makeOutermost above
      (result.map (path :: ·), after)
    | .error fault =>
      if fault = .exists ∧ t.leadsToDirectory path then (.ok [], t) else (.error fault, t)

/-- Makes directories, outermost first. Those made before a failure stay. -/
def makeInner (t : Tree) : List String → Except Fault Unit × Tree
  | [] => (.ok (), t)
  | path :: more =>
    match t.makeDirectory path with
    | .ok after => after.makeInner more
    | .error fault =>
      if fault = .exists ∧ t.leadsToDirectory path then t.makeInner more else (.error fault, t)

/-- Makes the directory at a path and those above it. No path is no work. -/
def makeDirectories (t : Tree) (path : String) : Except Fault Unit × Tree :=
  match t.makeOutermost ((Path.ancestors path.toList).map String.ofList) with
  | (.error fault, after) => (.error fault, after)
  | (.ok missing, after) => after.makeInner missing.reverse

/-- The tree as a store. -/
def store : Store (StateM Tree) where
  read path := do return (← get).read path
  write path contents := do
    match (← get).write path contents with
    | .error fault => return .error fault
    | .ok after => set after; return .ok ()
  makeDirectories path := do
    let (result, after) := (← get).makeDirectories path
    set after
    return result

/-! ## Listing -/

/-- Places in the order of a walk through the tree, names sorted. -/
def placeBefore : Place → Place → Bool
  | [], _ => true
  | _ :: _, [] => false
  | a :: as, b :: bs => if a = b then placeBefore as bs else a < b

/-- Whether a place lies below another, and how it is reached from there. -/
def below? : Place → Place → Option Place
  | [], place => if place = [] then none else some place
  | _ :: _, [] => none
  | a :: as, b :: bs => if a = b then below? as bs else none

/-- Everything below the current directory, with the sizes of files. -/
def listing (t : Tree) : List (String × Nat) :=
  let found := t.entries.filterMap fun (place, node) =>
    (below? t.current place).map fun inner => (inner, node)
  let sorted := found.mergeSort fun a b => placeBefore a.1 b.1
  sorted.map fun (place, node) =>
    let path := String.intercalate "/" place
    match node with
    | .file contents => (path, contents.size)
    | .directory => (path ++ "/", 0)

end Tree

end Chip8.File

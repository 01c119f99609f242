import ShipManifest.Disk.Basic

/-!
# A tree of files

Files and directories held in memory and found by path. A path is walked component by component from the working
directory: a dot stays, two dots go up, and a name must be in the directory that has been reached. A slash behind a file
asks for a directory. Names have at most 255 bytes and paths at most 4095.
-/

namespace ShipManifest

/-- Where something stands: the names from the root on, the last one first. -/
abbrev Location := List (List Char)

/-- Locations with what stands there: a file's bytes, or a directory. -/
structure FileTree where
  entries : List (Location × Option Text.Bytes)

namespace FileTree

/-- The working directory. -/
def home : Location := [['h', 'o', 'm', 'e']]

/-- The tree with an empty working directory. -/
def empty : FileTree := ⟨[(home, none), ([], none)]⟩

/-- What stands at a location, if anything does. -/
def at? (t : FileTree) (location : Location) : Option (Option Text.Bytes) :=
  t.entries.lookup location

/-- The tree with a file or a directory at the location. -/
def put (t : FileTree) (location : Location) (entry : Option Text.Bytes) : FileTree :=
  ⟨(location, entry) :: t.entries.filter (·.1 ≠ location)⟩

/-- The number of bytes of a name or a path. -/
def byteLength (cs : List Char) : Nat :=
  (cs.map Char.utf8Size).foldr (· + ·) 0

/-- Walks over components from a location. -/
def walk (t : FileTree) : Location → List (List Char) → Except ReadFailure Location
  | location, [] => .ok location
  | location, part :: rest =>
    match t.at? location with
    | none => .error .notFound
    | some (some _) => .error .notADirectory
    | some none =>
      if part = [] ∨ part = ['.'] then walk t location rest
      else if part = ['.', '.'] then walk t location.tail rest
      else if 255 < byteLength part then .error .nameTooLong
      else if (t.at? (part :: location)).isSome then walk t (part :: location) rest
      else .error .notFound

/-- Where a path begins. -/
def origin (path : List Char) : Location :=
  if path.head? = some '/' then [] else home

/-- The location that a path leads to. -/
def locate (t : FileTree) (path : String) : Except ReadFailure Location :=
  let cs := path.toList
  if cs = [] then .error .notFound
  else if cs.contains '\x00' then .error .zeroInPath
  else if 4095 < byteLength cs then .error .nameTooLong
  else t.walk (origin cs) (Path.parts cs)

/-- The bytes at a path. -/
def read (t : FileTree) : Disk := fun path =>
  match t.locate path with
  | .error failure => .error failure
  | .ok location =>
    match t.at? location with
    | some (some bytes) => .ok bytes
    | some none => .error .isDirectory
    | none => .error .notFound

/-- Walks over components like `walk`, and makes the directories that are missing. -/
def walkMaking (t : FileTree) : Location → List (List Char) → FileTree × Location
  | location, [] => (t, location)
  | location, part :: rest =>
    if part = [] ∨ part = ['.'] then walkMaking t location rest
    else if part = ['.', '.'] then walkMaking t location.tail rest
    else if (t.at? (part :: location)).isSome then walkMaking t (part :: location) rest
    else walkMaking (t.put (part :: location) none) (part :: location) rest

/-- The tree with a directory at the path, and with its parents. -/
def makeDirectory (t : FileTree) (path : String) : FileTree :=
  (t.walkMaking (origin path.toList) (Path.parts path.toList)).1

/-- The tree with a file at the path. -/
def write (t : FileTree) (path : String) (bytes : Text.Bytes) : FileTree :=
  let parts := (Path.parts path.toList).filter fun part => part ≠ [] ∧ part ≠ ['.']
  let (t, directory) := t.walkMaking (origin path.toList) parts.dropLast
  match parts.getLast? with
  | some name => t.put (name :: directory) (some bytes)
  | none => t

/-- The tree without what stands at the path. -/
def remove (t : FileTree) (path : String) : FileTree :=
  match t.locate path with
  | .ok location => ⟨t.entries.filter fun entry => ¬ location.isSuffixOf entry.1⟩
  | .error _ => t

end FileTree

end ShipManifest

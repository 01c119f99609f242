import ShipManifest.Text.Bytes

/-!
# The disk

What the program needs of the disk at one moment is what reading each path gives: the bytes of a file, or the reason why
there are none. Two paths are the same if their components are: repeated slashes, a slash at the end, and dots that are
not in front of a relative path do not count.
-/

namespace ShipManifest

/-- Why a path cannot be read. -/
inductive ReadFailure where
  | notFound
  | isDirectory
  | notADirectory
  | nameTooLong
  | zeroInPath
  | other (words : String)
  deriving DecidableEq

/-- The words of the system for a failure. -/
def ReadFailure.message : ReadFailure → String
  | notFound => "No such file or directory (os error 2)"
  | isDirectory => "Is a directory (os error 21)"
  | notADirectory => "Not a directory (os error 20)"
  | nameTooLong => "File name too long (os error 36)"
  | zeroInPath => "file name contained an unexpected NUL byte"
  | other words => words

/-- What reading each path gives at one moment. -/
abbrev Disk := String → Except ReadFailure Text.Bytes

namespace Disk

/-- A disk of which nothing has been read. -/
def unread : Disk := fun _ => .error .notFound

/-- The disk with what reading one more path gave. -/
def put (disk : Disk) (path : String) (file : Except ReadFailure Text.Bytes) : Disk :=
  fun p => if p = path then file else disk p

theorem put_self (disk : Disk) (path : String) (file : Except ReadFailure Text.Bytes) :
    disk.put path file path = file :=
  if_pos rfl

/-- What reads as on the disk still does when one more path of the disk has been read. -/
theorem put_of_read {disk looked : Disk} {p : String} (h : looked p = disk p) (path : String) :
    looked.put path (disk path) p = disk p := by
  by_cases hp : p = path
  · rw [hp, put_self]
  · rw [put, if_neg hp, h]

end Disk

namespace Path

/-- The parts of a path between slashes. -/
def parts (path : List Char) : List (List Char) :=
  path.splitOn '/'

/-- The components of a path: whether it starts at the root, whether it starts at a dot, and the names. -/
def components (path : String) : Bool × Bool × List (List Char) :=
  let parts := parts path.toList
  (path.toList.head? == some '/', parts.head? == some ['.'], parts.filter fun part => part ≠ [] ∧ part ≠ ['.'])

/-- Whether two paths have the same components. -/
def same (a b : String) : Bool :=
  components a == components b

end Path

end ShipManifest

import ShipManifest.Disk.Basic
import ShipManifest.Journal.Event
import ShipManifest.Manifest.Basic

/-!
# The store

The store holds the current manifest and replaces it as a whole. A reload first compares: if the current manifest came
from the same path and the file's checksum is the manifest's, nothing happens. Otherwise the file is loaded, and the
manifest is replaced only once that has succeeded.

Each operation sees the disk at one moment, and gives what it enters into the journal beside its result.
-/

namespace ShipManifest

/-- Why a manifest cannot be loaded. -/
inductive LoadError where
  | unreadable (path : String) (reason : ReadFailure)
  | notText (path : String)
  deriving DecidableEq

namespace LoadError

/-- The code of the error. -/
def code : LoadError → String
  | unreadable _ _ => "MANIFEST_IO_ERROR"
  | notText _ => "MANIFEST_INVALID_ENCODING"

/-- The words for the error. -/
def message : LoadError → String
  | unreadable path reason => "Failed to read manifest " ++ path ++ ": " ++ reason.message
  | notText path => "Manifest " ++ path ++ " is not valid UTF-8"

/-- The path that was to be loaded. -/
def path : LoadError → String
  | unreadable path _ => path
  | notText path => path

end LoadError

/-- A result, and what was entered into the journal on the way. -/
structure Logged (α : Type) where
  result : α
  entries : List Journal.Entry

namespace Manifest

/-- The bytes of the file at a path. -/
def readBytes (disk : Disk) (path : String) : Except LoadError Text.Bytes :=
  (disk path).mapError (.unreadable path)

/-- The text of the file at a path. -/
def readText (disk : Disk) (path : String) : Except LoadError String :=
  match readBytes disk path with
  | .error e => .error e
  | .ok bytes =>
    match Text.decode? bytes with
    | some text => .ok text
    | none => .error (.notText path)

/-- The checksum of the file at a path. -/
def fileChecksum (disk : Disk) (path : String) : Except LoadError UInt32 :=
  (readBytes disk path).map Checksum.ofBytes

/-- A checksum in eight hexadecimal digits. -/
def checksumText (checksum : UInt32) : String :=
  let digits := Nat.toDigits 16 checksum.toNat
  String.ofList (List.replicate (8 - digits.length) '0' ++ digits)

/-- What the journal says of a loaded manifest: its size and checksum, and a warning if rows are malformed. -/
def loadedEntries (now : Instant) (path : String) (m : Manifest) : List Journal.Entry :=
  Journal.Event.loaded.entry now
      [("path", path), ("records", toString m.records.length), ("checksum", checksumText m.checksum)] ::
    if 0 < m.malformedRows then
      [⟨now, .warn, Journal.Event.loaded.name, [("path", path), ("malformed_rows", toString m.malformedRows)]⟩]
    else []

/-- What the journal says of a load that succeeds. -/
def succeededEntries (now : Instant) (path : String) (m : Manifest) : List Journal.Entry :=
  Journal.Event.loadBegin.entry now [("path", path)] :: loadedEntries now path m

/-- What the journal says of a load that fails, which is an error. -/
def failedEntries (now : Instant) (path : String) (e : LoadError) : List Journal.Entry :=
  [Journal.Event.loadBegin.entry now [("path", path)],
    ⟨now, .error, Journal.Event.loadFailed.name, [("path", path), ("code", e.code), ("error", e.message)]⟩]

/-- What a file with this text is loaded as. -/
def ofFile (now : Instant) (path text : String) : Manifest :=
  { parse now text with source := some path }

/-- Loads the manifest at a path. -/
def load (disk : Disk) (now : Instant) (path : String) : Logged (Except LoadError Manifest) :=
  match readText disk path with
  | .error e => ⟨.error e, failedEntries now path e⟩
  | .ok text =>
    let m := ofFile now path text
    ⟨.ok m, succeededEntries now path m⟩

end Manifest

/-- The current manifest, and how many times it was replaced. Two snapshots of a store are the same one exactly if no
replacement lies between them. -/
structure Store where
  current : Manifest
  edition : Nat
  deriving DecidableEq

/-- What a reload did. -/
inductive ReloadOutcome where
  | unchanged
  | swapped (records : Nat)
  deriving DecidableEq

namespace Store

/-- A store that holds the manifest. -/
def ofManifest (m : Manifest) : Store := ⟨m, 0⟩

/-- The store with another manifest in the place of the current one. -/
def replace (s : Store) (m : Manifest) : Store :=
  ⟨m, s.edition + 1⟩

/-- Loads a manifest into a new store. -/
def openAt (disk : Disk) (now : Instant) (path : String) : Logged (Except LoadError Store) :=
  let loaded := Manifest.load disk now path
  ⟨loaded.result.map ofManifest, loaded.entries⟩

/-- Whether the current manifest came from the path. -/
def isFrom (s : Store) (path : String) : Bool :=
  match s.current.source with
  | some source => Path.same source path
  | none => false

/-- The store after a reload, and the outcome with its entries. -/
structure Reloaded where
  store : Store
  outcome : Logged (Except LoadError ReloadOutcome)

/-- Loads the path whatever the current manifest is, and replaces it if that succeeds. -/
def swapIn (s : Store) (disk : Disk) (now : Instant) (path : String) : Reloaded :=
  let loaded := Manifest.load disk now path
  match loaded.result with
  | .error e => ⟨s, ⟨.error e, loaded.entries⟩⟩
  | .ok m =>
    let records := m.records.length
    let swapped := Journal.Event.reloaded.entry now [("records", toString records)]
    ⟨s.replace m, ⟨.ok (.swapped records), loaded.entries ++ [swapped]⟩⟩

/-- Reloads from a path. -/
def reload (s : Store) (disk : Disk) (now : Instant) (path : String) : Reloaded :=
  if s.isFrom path then
    match Manifest.fileChecksum disk path with
    | .error e => ⟨s, ⟨.error e, []⟩⟩
    | .ok checksum => if checksum = s.current.checksum then ⟨s, ⟨.ok .unchanged, []⟩⟩ else s.swapIn disk now path
  else s.swapIn disk now path

end Store

end ShipManifest

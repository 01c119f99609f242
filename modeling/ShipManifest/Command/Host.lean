import ShipManifest.Command.Run

/-!
# The program on a host

A host lends the program what it acts with: files, the time and identifiers, the input, and two outputs. The program is
written once, for every host. It answers the lines of the input as they come in, and each line of the journal is written
before the response that it tells of.
-/

namespace ShipManifest

/-- What a program acts with, as actions of a monad. -/
structure Host (m : Type → Type) where
  /-- What reading a path gives now. -/
  read : String → m (Except ReadFailure Text.Bytes)
  /-- What the surroundings give now, before the line of this number. -/
  tick : Nat → m Tick
  /-- The bytes of the input up to the end of its first line. -/
  firstLine : m Text.Bytes
  /-- Takes a state through the lines of the input, one after the other as they come in. -/
  eachLine : {σ : Type} → (σ → Text.Bytes → m σ) → σ → m σ
  /-- Writes lines to the error output. -/
  report : List String → m Unit
  /-- Writes a line to the output. An output that refuses it is an error. -/
  deliver : Text.Bytes → m Unit

namespace Host

variable {m : Type → Type} [Monad m] [MonadExcept ServiceError m] (host : Host m)

/-- The disk with one more path as it is read now. -/
def look (disk : Disk) (path : String) : m Disk :=
  return disk.put path (← host.read path)

/-- The disk as far as a boot needs it: the configuration, and the manifest that it names. -/
def bootDisk (path : String) : m Disk := do
  let disk ← host.look .unread path
  match Config.load disk path with
  | .error _ => return disk
  | .ok config => host.look disk config.manifestPath

/-- The loop between two lines: the handler, and how many lines there have been. -/
structure Between where
  handler : Handler
  lines : Nat

/-- Answers a line, unless it is blank. -/
def turn (least : Severity) (between : Between) (line : Text.Bytes) : m Between := do
  let disk ← host.look .unread between.handler.manifestPath
  match between.handler.handleLine disk (← host.tick between.lines) line with
  | none => return { between with lines := between.lines + 1 }
  | some handled =>
    host.report (Journal.lines least handled.entries)
    host.deliver handled.response.line
    return ⟨handled.handler, between.lines + 1⟩

/-- Answers the lines of the input. -/
def serve (least : Severity) (h : Handler) : m Unit := do
  host.report (Journal.lines least [Handler.beginEntry (← host.tick 0).time])
  let between ← host.eachLine (host.turn least) ⟨h, 0⟩
  host.report (Journal.lines least [Handler.endEntry (← host.tick between.lines).time])

/-- Answers the one request of a command, which ends with the error that its response tells of. -/
def respond (least : Severity) (h : Handler) (answer : Disk → Tick → Handled) : m Unit := do
  let handled := answer (← host.look .unread h.manifestPath) (← host.tick 0)
  host.report (Journal.lines least handled.entries)
  host.deliver handled.response.line
  match handled.response with
  | .ok _ => return ()
  | .error e => throw e

/-- Runs a command behind its boot. -/
def execute (least : Severity) (h : Handler) : Command → m Unit
  | .query _ (some search) => host.respond least h fun disk tick => h.handle disk tick (.search search)
  | .query _ none => do
    let line ← host.firstLine
    host.respond least h fun disk tick => Command.handleFirst h disk tick line
  | .start _ => host.serve least h
  | .headers _ => host.respond least h fun disk tick => h.handle disk tick .headers

/-- Runs a command, and gives its exit code. -/
def run (command : Command) : m Nat :=
  tryCatch
    (do
      let booted := boot (← host.bootDisk command.config) (← host.tick 0).time command.config
      host.report (Journal.lines booted.least booted.entries)
      let h ← MonadExcept.ofExcept booted.result
      host.execute booted.least h command
      return 0)
    fun e => do
      host.report [e.display ++ "\n"]
      return 1

end Host

end ShipManifest

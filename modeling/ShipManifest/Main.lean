import ShipManifest.Command.Host
import Std.Time.DateTime.Timestamp

/-!
# The program

The host of a process: its files, its clock, random identifiers, and its three streams. A stream that cannot be read or
written ends the program with an error, but for the error output, where nothing more could be said of it.
-/

namespace ShipManifest.Program

/-- The kind of a failure of the system, with its words if no kind is meant for it. -/
def failure : IO.Error → ReadFailure
  | .noFileOrDirectory .. => .notFound
  | .inappropriateType _ code details | .illegalOperation code details | .resourceVanished code details =>
    ofCode code details
  | .invalidArgument _ code details | .resourceExhausted _ code details => ofCode code details
  | e => .other (toString e)
where
  /-- The failure of a system error, whose code may come negated. -/
  ofCode (code : UInt32) (details : String) : ReadFailure :=
    let code := min code (0 - code)
    if code = 2 then .notFound
    else if code = 20 then .notADirectory
    else if code = 21 then .isDirectory
    else if code = 36 then .nameTooLong
    else .other (details ++ " (os error " ++ toString code ++ ")")

/-- What reading a path gives now. -/
def readPath (path : String) : BaseIO (Except ReadFailure Text.Bytes) := do
  if path.toList.contains '\x00' then return .error .zeroInPath
  match ← (IO.FS.readBinFile path).toBaseIO with
  | .ok bytes => return .ok bytes.data.toList
  | .error e => return .error (failure e)

/-- A random identifier of version 4. -/
def freshId : IO String := do
  let bytes ← IO.getRandomBytes 16
  let digits := bytes.data.toList.zipIdx.flatMap fun (byte, i) =>
    let value := if i = 6 then byte.toNat % 16 + 0x40 else if i = 8 then byte.toNat % 64 + 0x80 else byte.toNat
    let dash := if i = 4 ∨ i = 6 ∨ i = 8 ∨ i = 10 then ['-'] else []
    dash ++ [(value / 16).digitChar, (value % 16).digitChar]
  return String.ofList digits

/-- The time now, with an identifier for one request. -/
def tick : IO Tick := do
  let timestamp ← Std.Time.Timestamp.now
  return ⟨⟨timestamp.toNanosecondsSinceUnixEpoch.val.toNat⟩, ← freshId⟩

/-- Writes lines to the error output. -/
def report (lines : List String) : IO Unit := do
  let errors ← IO.getStderr
  for line in lines do
    errors.putStr line
  errors.flush

/-- Writes bytes to the output. -/
def deliver (bytes : Text.Bytes) : IO Unit := do
  let output ← IO.getStdout
  output.write ⟨bytes.toArray⟩
  output.flush

/-- Reads the input up to a line feed or its end, one byte at a time; the line feed is kept. -/
def readLine : IO Text.Bytes := do
  let input ← IO.getStdin
  let mut line : Array UInt8 := #[]
  repeat
    let chunk ← input.read 1
    line := line ++ chunk.data
    if chunk.isEmpty ∨ chunk.data.contains 10 then break
  return line.toList

/-- An action on a stream, whose failure ends the program. -/
def orEnd {α : Type} (action : IO α) : EIO ServiceError α :=
  action.toEIO fun e => .lineUnwritten (.other (failure e).message)

/-- Takes a state through the lines of the input as they come in. -/
def eachLine {σ : Type} (step : σ → Text.Bytes → EIO ServiceError σ) (start : σ) : EIO ServiceError σ := do
  let mut state := start
  repeat
    let raw ← orEnd readLine
    if raw.isEmpty then break
    state ← (Text.byteLines raw).foldlM step state
  return state

/-- The host of the process. -/
def host : Host (EIO ServiceError) where
  read path := readPath path
  tick _ := orEnd tick
  firstLine := orEnd readLine
  eachLine := eachLine
  report lines := do let _ ← (report lines).toBaseIO
  deliver text := orEnd (deliver (text ++ [10]))

end ShipManifest.Program

open ShipManifest in
/-- Runs the program. -/
def main (arguments : List String) : IO UInt32 := do
  match Command.parse arguments with
  | .run command =>
    let code ← (Program.host.run command).toIO fun e => .userError e.display
    return code.toUInt32
  | .version =>
    IO.print Command.versionText
    return 0
  | .help topic =>
    IO.print (topic.text)
    return 0
  | .misuse =>
    IO.eprint Command.misuseText
    return 2

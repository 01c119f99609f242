import ShipManifest.Command.Arguments
import ShipManifest.Service.Serve

/-!
# Running commands

A command first boots: it loads the configuration, takes the journal's least severity from it, and opens the manifest.
If that fails nothing is written to the output and the exit code is 1. Responses go to the output and journal lines to
the error output, where an error that ends the program follows them.
-/

namespace ShipManifest

/-- What a boot gives: the journal's least severity, a handler or an error, and the entries made. -/
structure Booted where
  least : Severity
  result : Except ServiceError Handler
  entries : List Journal.Entry

/-- Loads a configuration and opens its manifest. -/
def boot (disk : Disk) (now : Instant) (path : String) : Booted :=
  match Config.load disk path with
  | .error e => ⟨.info, .error e, []⟩
  | .ok config =>
    let opened := Handler.ofConfig disk now config
    let loaded := Journal.Event.configLoaded.entry now
      [("config", path), ("manifest_path", config.manifestPath), ("stride_policy", config.stride.name)]
    ⟨config.severity, opened.result, loaded :: opened.entries⟩

namespace Command

/-- The bytes up to the first line feed, with it. -/
def firstLine (input : Text.Bytes) : Text.Bytes :=
  input.takeWhile (· != 10) ++ (input.dropWhile (· != 10)).take 1

/-- Answers the first line of the input, which must not be blank. -/
def handleFirst (h : Handler) (disk : Disk) (tick : Tick) (input : Text.Bytes) : Handled :=
  match Request.textOfLine (firstLine input) with
  | .error e => ⟨h, .error e, []⟩
  | .ok none => ⟨h, .error .inputEmpty, []⟩
  | .ok (some text) => h.handleText disk tick text

/-- What a run leaves: the exit code, the bytes on the output, and the lines on the error output. -/
structure Ran where
  exitCode : Nat
  output : Text.Bytes
  errors : List String

/-- The path of the configuration. -/
def config : Command → String
  | query path _ => path
  | start path => path
  | headers path => path

/-- The end of a run that fails. -/
def failed (least : Severity) (entries : List Journal.Entry) (output : Text.Bytes) (e : ServiceError) : Ran :=
  ⟨1, output, Journal.lines least entries ++ [e.display ++ "\n"]⟩

/-- The end of a run that writes one response. -/
def responded (least : Severity) (entries : List Journal.Entry) (response : Response) : Ran :=
  let output := response.line ++ [10]
  match response with
  | .ok _ => ⟨0, output, Journal.lines least entries⟩
  | .error e => failed least entries output e

/-- Runs a command with this disk, clock and input, where the output takes everything. -/
def run (disk : Disk) (clock : Clock) (input : Text.Bytes) (command : Command) : Ran :=
  let booted := boot disk (clock 0).time command.config
  match booted.result with
  | .error e => failed booted.least booted.entries [] e
  | .ok h =>
    match command with
    | query _ (some search) =>
      let handled := h.handle disk (clock 0) (.search search)
      responded booted.least (booted.entries ++ handled.entries) handled.response
    | query _ none =>
      let handled := handleFirst h disk (clock 0) input
      responded booted.least (booted.entries ++ handled.entries) handled.response
    | start _ =>
      let served := h.serve disk clock {} input
      match served.failure with
      | none => ⟨0, served.delivered, Journal.lines booted.least (booted.entries ++ served.entries)⟩
      | some e => failed booted.least (booted.entries ++ served.entries) served.delivered e
    | headers _ =>
      let handled := h.handle disk (clock 0) .headers
      responded booted.least (booted.entries ++ handled.entries) handled.response

end Command

end ShipManifest

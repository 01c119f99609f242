import ShipManifest.Service.Handler
import ShipManifest.Service.Sink
import ShipManifest.Text.Lines

/-!
# The request loop

Every line of the input that is not blank is one request and gets one response, on a line of its own. A line that is no
text, no JSON or no request gets an error, which is entered into the journal, and the loop goes on. It ends with the
input, or at the first response that the sink refuses.
-/

namespace ShipManifest

/-- What the surroundings give to each line of the input, by its number. -/
abbrev Clock := Nat → Tick

/-- The text of a line, or `none` if the line is blank. -/
def Request.textOfLine (line : Text.Bytes) : Except ServiceError (Option String) :=
  match Text.decode? line with
  | none => .error .inputNotText
  | some text => .ok (if Text.isBlank text.toList then none else some text)

/-- What the journal says of a request that got an error. -/
def rejectedEntry (time : Instant) (e : ServiceError) : Journal.Entry :=
  Journal.Event.requestRejected.entry time [("code", e.code), ("error", e.message)]

/-- The entry of an error response, or none. -/
def rejectedEntries (time : Instant) : Response → List Journal.Entry
  | .ok _ => []
  | .error e => [rejectedEntry time e]

namespace Handler

/-- Answers the text of a request. -/
def handleText (h : Handler) (disk : Disk) (tick : Tick) (text : String) : Handled :=
  match Json.parse text with
  | .ok value => h.handleJson disk tick value
  | .error fault => ⟨h, .error (.invalidJson fault), []⟩

/-- Answers a line of the input, unless it is blank. Errors are entered into the journal. -/
def handleLine (h : Handler) (disk : Disk) (tick : Tick) (line : Text.Bytes) : Option Handled :=
  let handled? : Option Handled := match Request.textOfLine line with
    | .error e => some ⟨h, .error e, []⟩
    | .ok text? => text?.map (h.handleText disk tick)
  handled?.map fun handled =>
    { handled with entries := handled.entries ++ rejectedEntries tick.time handled.response }

/-- The state of the loop between two lines, or where it ended: the handler, the sink, the bytes delivered, the entries
made, and the error that ended it. -/
structure Served where
  handler : Handler
  sink : Sink
  delivered : Text.Bytes
  entries : List Journal.Entry
  failure : Option ServiceError

/-- Answers lines, the first of which has the number `n`. -/
def serveLines (h : Handler) (disk : Disk) (clock : Clock) (sink : Sink) (n : Nat) : List Text.Bytes → Served
  | [] => ⟨h, sink, [], [], none⟩
  | line :: rest =>
    match h.handleLine disk (clock n) line with
    | none => serveLines h disk clock sink (n + 1) rest
    | some handled =>
      let written := sink.writeLine handled.response.line
      match written.result with
      | .error e => ⟨handled.handler, sink, written.delivered, handled.entries, some e⟩
      | .ok sink =>
        let served := serveLines handled.handler disk clock sink (n + 1) rest
        { served with
          delivered := written.delivered ++ served.delivered
          entries := handled.entries ++ served.entries }

/-- The entry of the loop's beginning. -/
def beginEntry (time : Instant) : Journal.Entry :=
  Journal.Event.serveBegin.entry time []

/-- The entry of the loop's regular end. -/
def endEntry (time : Instant) : Journal.Entry :=
  Journal.Event.serveEnd.entry time []

/-- Answers an input. The loop's beginning and its regular end are entered into the journal. -/
def serve (h : Handler) (disk : Disk) (clock : Clock) (sink : Sink) (input : Text.Bytes) : Served :=
  let lines := Text.byteLines input
  let served := h.serveLines disk clock sink 0 lines
  let ending := if served.failure.isNone then [endEntry (clock lines.length).time] else []
  { served with entries := beginEntry (clock 0).time :: served.entries ++ ending }

end Handler

end ShipManifest

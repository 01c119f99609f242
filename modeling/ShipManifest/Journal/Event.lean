import ShipManifest.Journal.Entry

/-!
# Events

The events that the program itself enters into the journal. An event that reports a failure is a warning, an event of a
single request is a trace, and every other event is information.
-/

namespace ShipManifest.Journal

/-- What the program reports. -/
inductive Event where
  | configLoaded
  | loadBegin
  | loaded
  | reloaded
  | loadFailed
  | queryComplete
  | requestRejected
  | serveBegin
  | serveEnd
  deriving DecidableEq

namespace Event

/-- The event's name in the journal. -/
def name : Event → String
  | configLoaded => "CONFIG_LOADED"
  | loadBegin => "MANIFEST_LOAD_BEGIN"
  | loaded => "MANIFEST_LOADED"
  | reloaded => "MANIFEST_RELOADED"
  | loadFailed => "MANIFEST_LOAD_FAILED"
  | queryComplete => "QUERY_COMPLETE"
  | requestRejected => "REQUEST_REJECTED"
  | serveBegin => "SERVE_BEGIN"
  | serveEnd => "SERVE_END"

/-- Whether the event reports a failure. -/
def isFailure : Event → Bool
  | loadFailed | requestRejected => true
  | _ => false

/-- Whether the event belongs to a single request. -/
def isPerRequest : Event → Bool
  | queryComplete | requestRejected => true
  | _ => false

/-- The severity of the event. -/
def severity (e : Event) : Severity :=
  if e.isFailure then .warn else if e.isPerRequest then .trace else .info

/-- The entry of the event. -/
def entry (e : Event) (time : Instant) (fields : List (String × String)) : Entry :=
  ⟨time, e.severity, e.name, fields⟩

end Event

end ShipManifest.Journal

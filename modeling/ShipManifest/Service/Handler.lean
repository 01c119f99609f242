import ShipManifest.Service.Config
import ShipManifest.Service.Reply
import ShipManifest.Service.Request

/-!
# Handling requests

A handler holds the store, the options for queries and the path that a reload reads. Each request is answered from the
manifest that is current when it comes. Answers that find records are entered into the journal with an identifier of the
request.
-/

namespace ShipManifest

/-- What the surroundings give to one request: the time and an identifier. -/
structure Tick where
  time : Instant
  requestId : String

/-- A store with what is needed to answer requests about it. -/
structure Handler where
  store : Store
  options : QueryOptions
  manifestPath : String
  deriving DecidableEq

/-- The handler after a request, with the response and the journal entries. -/
structure Handled where
  handler : Handler
  response : Response
  entries : List Journal.Entry

namespace Handler

/-- Opens the manifest of a configuration. -/
def ofConfig (disk : Disk) (now : Instant) (config : Config) : Logged (Except ServiceError Handler) :=
  let opened := Store.openAt disk now config.manifestPath
  match opened.result with
  | .error e => ⟨.error (.loadFailed e), opened.entries⟩
  | .ok store => ⟨.ok ⟨store, config.queryOptions, config.manifestPath⟩, opened.entries⟩

/-- What the journal says of an answer that finds records. -/
def queryEntry (tick : Tick) (operation : Operation) (input : String) (outcome : Outcome) : Journal.Entry :=
  Journal.Event.queryComplete.entry tick.time
    [("request_id", tick.requestId), ("op", operation.label), ("input", input),
      ("matches", toString outcome.found.length)]

/-- Answers with what was found. -/
def answer (h : Handler) (tick : Tick) (operation : Operation) (input : String) (outcome : Outcome) : Handled :=
  ⟨h, .ok (.found input h.store.current.headers outcome), [queryEntry tick operation input outcome]⟩

/-- Answers a request. -/
def handle (h : Handler) (disk : Disk) (tick : Tick) (request : Request) : Handled :=
  let manifest := h.store.current
  match request with
  | .search query => h.answer tick .search query (manifest.query h.options query)
  | .all => h.answer tick .all "" manifest.everyone
  | .name name => h.answer tick .name name (searchName h.options.mode manifest.listed name)
  | .headers => ⟨h, .ok (.headers manifest.headers), []⟩
  | .info => ⟨h, .ok (.info manifest.info), []⟩
  | .reload =>
    let reloaded := h.store.reload disk tick.time h.manifestPath
    ⟨{ h with store := reloaded.store },
      (reloaded.outcome.result.map .reloaded).mapError .loadFailed,
      reloaded.outcome.entries⟩

/-- Answers a request that is given as a value. -/
def handleJson (h : Handler) (disk : Disk) (tick : Tick) (value : Json) : Handled :=
  match Request.ofJson value with
  | .ok request => h.handle disk tick request
  | .error mismatch => ⟨h, .error (.invalidRequest mismatch), []⟩

end Handler

end ShipManifest

import ShipManifest.Proofs.JournalTold
import ShipManifest.Proofs.Reloading
import ShipManifest.Service.Serve

/-!
# The journal as it is written

The library gives the entries of an operation beside its result, and a journal keeps those of its severity. A program
writes them one by one, while the operation goes on, and drops the others. This is the same.

* A journal in which is written is `Journal.Book`; an entry goes into it by `Journal.enter`. That a computation has a
  result and writes entries, whatever the least severity is and whatever has been written, is `Journal.Writes`. It is
  preserved by sequences (`Journal.Writes.bind`).
* Under `Writing`, each operation that has entries is given once more, with every entry written where it is made. Each
  of them writes the entries of the operation and has its result (`Writing.load_writes` up to `Writing.serve_writes`).
-/

namespace ShipManifest

namespace Journal

/-! ## Books -/

/-- A journal in which is written: the least severity that it holds, and its lines. -/
structure Book where
  least : Severity
  lines : List String

/-- Enters an entry, or drops it. -/
def enter (e : Entry) : StateM Book Unit :=
  modify fun book => if book.least.passes e.severity then { book with lines := book.lines ++ [e.line] } else book

/-- The computation has this result, and it writes those of the entries that the journal holds behind its lines. -/
def Writes {α : Type} (program : StateM Book α) (result : α) (entries : List Entry) : Prop :=
  ∀ book, program.run book = (result, { book with lines := book.lines ++ lines book.least entries })

namespace Writes

variable {α β : Type} {program : StateM Book α} {a : α} {xs ys : List Entry}

theorem pure (a : α) : Writes (Pure.pure a) a [] := by
  intro book
  rw [lines, kept, List.filter_nil, List.map_nil, List.append_nil]
  rfl

theorem enter (e : Entry) : Writes (enter e) () [e] := by
  intro book
  have hrun : (Journal.enter e).run book =
    ((), if book.least.passes e.severity then { book with lines := book.lines ++ [e.line] } else book) := rfl
  rw [hrun, lines, kept]
  cases h : book.least.passes e.severity <;> simp [h]

/-- What is done in sequence writes in sequence. -/
theorem bind {next : α → StateM Book β} {b : β} (h : Writes program a xs) (hnext : Writes (next a) b ys) :
    Writes (program >>= next) b (xs ++ ys) := by
  intro book
  have hrun : (program >>= next).run book = (next (program.run book).1).run (program.run book).2 := rfl
  rw [hrun, h book, hnext, lines_append, List.append_assoc]

/-- What writes nothing can come behind the last entry. -/
theorem bind_silent {next : α → StateM Book β} {b : β} (h : Writes program a xs) (hnext : Writes (next a) b []) :
    Writes (program >>= next) b xs := by
  have hbind := h.bind hnext
  rwa [List.append_nil] at hbind

/-- An entry and then the rest. -/
theorem cons {program : Unit → StateM Book α} {e : Entry} (h : Writes (program ()) a xs) :
    Writes (Journal.enter e >>= program) a (e :: xs) :=
  (enter e).bind h

end Writes

end Journal

open Journal (Book Writes enter)

/-- What the loop ended with, beside its entries. -/
structure Ended where
  handler : Handler
  sink : Sink
  delivered : Text.Bytes
  failure : Option ServiceError

/-- The end of the loop without its entries. -/
def Handler.Served.ended (served : Handler.Served) : Ended :=
  ⟨served.handler, served.sink, served.delivered, served.failure⟩

namespace Writing

/-! ## Loads and reloads -/

section Loads

variable (disk : Disk) (now : Instant) (path : String)

/-- `Manifest.load`, which announces the load, and then tells what came of it. -/
def load : StateM Book (Except LoadError Manifest) := do
  enter (Journal.Event.loadBegin.entry now [("path", path)])
  match Manifest.readText disk path with
  | .error e =>
    enter ⟨now, .error, Journal.Event.loadFailed.name, [("path", path), ("code", e.code), ("error", e.message)]⟩
    return .error e
  | .ok text =>
    let m := Manifest.ofFile now path text
    enter (Journal.Event.loaded.entry now
      [("path", path), ("records", toString m.records.length), ("checksum", Manifest.checksumText m.checksum)])
    if 0 < m.malformedRows then
      enter ⟨now, .warn, Journal.Event.loaded.name, [("path", path), ("malformed_rows", toString m.malformedRows)]⟩
    return .ok m

/-- `Store.swapIn`, which tells of the swap behind the load. -/
def swapIn (s : Store) : StateM Book (Store × Except LoadError ReloadOutcome) := do
  match ← load disk now path with
  | .error e => return (s, .error e)
  | .ok m =>
    let records := m.records.length
    enter (Journal.Event.reloaded.entry now [("records", toString records)])
    return (s.replace m, .ok (.swapped records))

/-- `Store.reload`, whose comparison writes nothing. -/
def reload (s : Store) : StateM Book (Store × Except LoadError ReloadOutcome) :=
  if s.isFrom path then
    match Manifest.fileChecksum disk path with
    | .error e => return (s, .error e)
    | .ok checksum => if checksum = s.current.checksum then return (s, .ok .unchanged) else swapIn disk now path s
  else swapIn disk now path s

theorem load_writes :
    Writes (load disk now path) (Manifest.load disk now path).result (Manifest.load disk now path).entries := by
  unfold load Manifest.load
  cases Manifest.readText disk path with
  | error e => exact .cons (.cons (.pure _))
  | ok text =>
    simp only [Manifest.succeededEntries, Manifest.loadedEntries]
    refine .cons (.cons ?_)
    split
    · exact .cons (.pure _)
    · exact .pure _

theorem swapIn_writes (s : Store) :
    let swapped := s.swapIn disk now path
    Writes (swapIn disk now path s) (swapped.store, swapped.outcome.result) swapped.outcome.entries := by
  have hload := load_writes disk now path
  unfold swapIn Store.swapIn
  generalize Manifest.load disk now path = loaded at hload ⊢
  obtain ⟨result, entries⟩ := loaded
  cases result with
  | error e => exact hload.bind_silent (.pure _)
  | ok m => exact hload.bind (.cons (.pure _))

theorem reload_writes (s : Store) :
    let reloaded := s.reload disk now path
    Writes (reload disk now path s) (reloaded.store, reloaded.outcome.result) reloaded.outcome.entries := by
  unfold reload Store.reload
  split
  · cases Manifest.fileChecksum disk path with
    | error e => exact .pure _
    | ok checksum =>
      dsimp only
      split
      · exact .pure _
      · exact swapIn_writes disk now path s
  · exact swapIn_writes disk now path s

end Loads

/-! ## Requests -/

section Requests

variable (disk : Disk) (tick : Tick) (h : Handler)

/-- `Handler.answer`, which tells what was found. -/
def answer (operation : Operation) (input : String) (outcome : Outcome) : StateM Book (Handler × Response) := do
  enter (Handler.queryEntry tick operation input outcome)
  return (h, .ok (.found input h.store.current.headers outcome))

/-- `Handler.handle`, where answers that find records and reloads write. -/
def handle (request : Request) : StateM Book (Handler × Response) :=
  let manifest := h.store.current
  match request with
  | .search query => answer tick h .search query (manifest.query h.options query)
  | .all => answer tick h .all "" manifest.everyone
  | .name name => answer tick h .name name (searchName h.options.mode manifest.listed name)
  | .headers => return (h, .ok (.headers manifest.headers))
  | .info => return (h, .ok (.info manifest.info))
  | .reload => do
    let (store, result) ← reload disk tick.time h.manifestPath h.store
    return ({ h with store := store }, (result.map .reloaded).mapError .loadFailed)

/-- `Handler.handleJson`, where a value that is no request writes nothing. -/
def handleJson (value : Json) : StateM Book (Handler × Response) :=
  match Request.ofJson value with
  | .ok request => handle disk tick h request
  | .error mismatch => return (h, .error (.invalidRequest mismatch))

/-- `Handler.handleText`, where a text that is no value writes nothing. -/
def handleText (text : String) : StateM Book (Handler × Response) :=
  match Json.parse text with
  | .ok value => handleJson disk tick h value
  | .error fault => return (h, .error (.invalidJson fault))

/-- Tells of a response that is an error. -/
def reject (response : Response) : StateM Book Unit :=
  match response with
  | .ok _ => return ()
  | .error e => enter (rejectedEntry tick.time e)

/-- `Handler.handleLine`, which tells of errors before they are answered. -/
def handleLine (line : Text.Bytes) : StateM Book (Option (Handler × Response)) :=
  match Request.textOfLine line with
  | .error e => do
    reject tick (.error e)
    return some (h, .error e)
  | .ok none => return none
  | .ok (some text) => do
    let (handler, response) ← handleText disk tick h text
    reject tick response
    return some (handler, response)

theorem answer_writes (operation : Operation) (input : String) (outcome : Outcome) :
    let handled := h.answer tick operation input outcome
    Writes (answer tick h operation input outcome) (handled.handler, handled.response) handled.entries :=
  .cons (.pure _)

theorem handle_writes (request : Request) :
    let handled := h.handle disk tick request
    Writes (handle disk tick h request) (handled.handler, handled.response) handled.entries := by
  cases request with
  | search query => exact answer_writes tick h .search query _
  | all => exact answer_writes tick h .all "" _
  | name name => exact answer_writes tick h .name name _
  | headers => exact .pure _
  | info => exact .pure _
  | reload => exact (reload_writes disk tick.time h.manifestPath h.store).bind_silent (.pure _)

theorem handleJson_writes (value : Json) :
    let handled := h.handleJson disk tick value
    Writes (handleJson disk tick h value) (handled.handler, handled.response) handled.entries := by
  unfold handleJson Handler.handleJson
  cases Request.ofJson value with
  | ok request => exact handle_writes disk tick h request
  | error mismatch => exact .pure _

theorem handleText_writes (text : String) :
    let handled := h.handleText disk tick text
    Writes (handleText disk tick h text) (handled.handler, handled.response) handled.entries := by
  unfold handleText Handler.handleText
  cases Json.parse text with
  | ok value => exact handleJson_writes disk tick h value
  | error fault => exact .pure _

theorem reject_writes (response : Response) :
    Writes (reject tick response) () (rejectedEntries tick.time response) := by
  cases response with
  | ok reply => exact .pure _
  | error e => exact .enter _

/-- A line that is answered writes its entries, and a blank one nothing. -/
theorem handleLine_writes (line : Text.Bytes) :
    let handled? := h.handleLine disk tick line
    Writes (handleLine disk tick h line) (handled?.map fun handled => (handled.handler, handled.response))
      ((handled?.map (·.entries)).getD []) := by
  unfold handleLine Handler.handleLine
  cases Request.textOfLine line with
  | error e => exact (reject_writes tick (.error e)).bind_silent (.pure _)
  | ok text? =>
    cases text? with
    | none => exact .pure _
    | some text => exact (handleText_writes disk tick h text).bind ((reject_writes tick _).bind_silent (.pure _))

end Requests

/-! ## The loop -/

section Loop

variable (disk : Disk) (clock : Clock)

/-- `Handler.serveLines`, where each line writes before its response is delivered. -/
def serveLines (h : Handler) (sink : Sink) (n : Nat) : List Text.Bytes → StateM Book Ended
  | [] => return ⟨h, sink, [], none⟩
  | line :: rest => do
    match ← handleLine disk (clock n) h line with
    | none => serveLines h sink (n + 1) rest
    | some (handler, response) =>
      let written := sink.writeLine response.line
      match written.result with
      | .error e => return ⟨handler, sink, written.delivered, some e⟩
      | .ok sink =>
        let ended ← serveLines handler sink (n + 1) rest
        return { ended with delivered := written.delivered ++ ended.delivered }

/-- `Handler.serve`, which tells of its beginning and of its regular end. -/
def serve (h : Handler) (sink : Sink) (input : Text.Bytes) : StateM Book Ended := do
  let lines := Text.byteLines input
  enter (Handler.beginEntry (clock 0).time)
  let ended ← serveLines disk clock h sink 0 lines
  if ended.failure.isNone then
    enter (Handler.endEntry (clock lines.length).time)
  return ended

theorem serveLines_writes (h : Handler) (sink : Sink) (n : Nat) (lines : List Text.Bytes) :
    let served := h.serveLines disk clock sink n lines
    Writes (serveLines disk clock h sink n lines) served.ended served.entries := by
  induction lines generalizing h sink n with
  | nil => exact .pure _
  | cons line rest ih =>
    have hline := handleLine_writes disk (clock n) h line
    rw [serveLines, Handler.serveLines]
    cases hl : h.handleLine disk (clock n) line with
    | none =>
      rw [hl] at hline
      exact hline.bind (ih h sink (n + 1))
    | some handled =>
      rw [hl] at hline
      cases hw : (sink.writeLine handled.response.line).result with
      | error e =>
        simp only [hw]
        refine hline.bind_silent ?_
        simp only [Option.map_some, hw]
        exact .pure _
      | ok next =>
        simp only [hw]
        refine hline.bind ?_
        simp only [Option.map_some, hw]
        exact (ih handled.handler next (n + 1)).bind_silent (.pure _)

/-- **The loop that writes on its way is the loop that gives its entries at its end.** -/
theorem serve_writes (h : Handler) (sink : Sink) (input : Text.Bytes) :
    let served := h.serve disk clock sink input
    Writes (serve disk clock h sink input) served.ended served.entries := by
  have hlines := serveLines_writes disk clock h sink 0 (Text.byteLines input)
  refine .cons (hlines.bind ?_)
  rw [Handler.Served.ended]
  split
  · exact .cons (.pure _)
  · exact .pure _

end Loop

end Writing

end ShipManifest

import ShipManifest.Proofs.JournalTold
import ShipManifest.Proofs.Sinks
import ShipManifest.Proofs.WrittenJournal

/-!
# The least severity of the journal

* A run of the loop with a journal that is written on the way is recorded as its end and the lines
  (`Writing.recorded`). It is the run of the library, with the lines of the entries that the journal holds
  (`Writing.recorded_eq`).
* What the surroundings give to an entry is its time and the identifier of a request. Without these, runs at other times
  enter the same (`Handler.serve_tickless`, along `Handler.handle_tickless` and `Handler.exchanges_tickless`), and their
  lines differ under two keys only (`Journal.AlikeButTicks`).

Main statement: the least severity changes nothing but which lines are written, and a higher one writes those lines that
tell at least this severity (`Writing.least_severity_only_drops`).
-/

namespace ShipManifest

/-! ## Entries without times and identifiers -/

namespace Journal

/-- The field with an empty text if it is the identifier of a request. -/
def blankId (field : String × String) : String × String :=
  if field.1 = "request_id" then (field.1, "") else field

/-- The entry without what the surroundings gave to it: its time, and the identifier of a request. -/
def Entry.tickless (e : Entry) : Entry :=
  { e with time := ⟨0⟩, fields := e.fields.map blankId }

/-- The keys under which a line tells what the surroundings gave to it. -/
def tickKeys : List String :=
  ["ts", "request_id"]

/-- The lines tell the same but for times and identifiers. -/
def AlikeButTicks (line line' : String) : Prop :=
  ∀ key, key ∉ tickKeys → told key line = told key line'

theorem lookup_blankId {key : String} (h : key ≠ "request_id") (fields : List (String × String)) :
    (fields.map blankId).lookup key = fields.lookup key := by
  induction fields with
  | nil => rfl
  | cons field fields ih =>
    obtain ⟨k, value⟩ := field
    rw [List.map_cons, blankId]
    split
    · rename_i hk
      have hne : key ≠ k := fun he => h (he.trans hk)
      rw [lookup_cons, lookup_cons, if_neg hne, if_neg hne, ih]
    · rw [lookup_cons, lookup_cons, ih]

section Alike

variable {e e' : Entry}

/-- What is left without times and identifiers. -/
theorem tickless_eq_iff : e.tickless = e'.tickless ↔
    e.severity = e'.severity ∧ e.event = e'.event ∧ e.fields.map blankId = e'.fields.map blankId := by
  simp [Entry.tickless]

theorem alikeButTicks_of_tickless (h : e.tickless = e'.tickless) : AlikeButTicks e.line e'.line := by
  obtain ⟨hseverity, hevent, hfields⟩ := tickless_eq_iff.mp h
  intro key hkey
  simp only [tickKeys, List.mem_cons, List.not_mem_nil, or_false, not_or] at hkey
  obtain ⟨hts, hid⟩ := hkey
  by_cases hcommon : key ∈ commonKeys
  · simp only [commonKeys, List.mem_cons, List.not_mem_nil, or_false, hts] at hcommon
    rcases hcommon with rfl | rfl
    · rw [told_event, told_event, hevent]
    · rw [told_severity, told_severity, hseverity]
  · rw [told_field e hcommon, told_field e' hcommon, ← lookup_blankId hid, hfields, lookup_blankId hid]

end Alike

/-- Journals of entries that are the same but for times and identifiers have lines that are alike. -/
theorem lines_alike (least : Severity) : ∀ {xs ys : List Entry}, xs.map (·.tickless) = ys.map (·.tickless) →
    List.Forall₂ AlikeButTicks (lines least xs) (lines least ys)
  | [], [], _ => .nil
  | [], _ :: _, h => nomatch h
  | _ :: _, [], h => nomatch h
  | x :: xs, y :: ys, h => by
    rw [List.map_cons, List.map_cons, List.cons.injEq] at h
    obtain ⟨hseverity, -, -⟩ := tickless_eq_iff.mp h.1
    have hrest := lines_alike least h.2
    rw [lines, lines, kept, kept, List.filter_cons, List.filter_cons, hseverity]
    split
    · exact .cons (alikeButTicks_of_tickless h.1) hrest
    · exact hrest

end Journal

/-! ## Entries at other times -/

/-- A load that succeeds enters the same at any time. -/
theorem Manifest.succeededEntries_tickless (now now' : Instant) (path text : String) :
    (succeededEntries now path (ofFile now path text)).map (·.tickless) =
      (succeededEntries now' path (ofFile now' path text)).map (·.tickless) := by
  have hrows : (ofFile now path text).malformedRows = (ofFile now' path text).malformedRows := rfl
  rw [succeededEntries, succeededEntries, loadedEntries, loadedEntries, hrows]
  split <;> rfl

namespace Store

variable (s : Store) (disk : Disk) (now now' : Instant) (path : String)

theorem swapIn_tickless : (s.swapIn disk now path).outcome.entries.map (·.tickless) =
    (s.timeless.swapIn disk now' path).outcome.entries.map (·.tickless) := by
  cases h : disk path with
  | error reason =>
    rw [swapIn, swapIn, Manifest.load_of_unreadable h, Manifest.load_of_unreadable h]
    rfl
  | ok bytes =>
    cases ht : Text.decode? bytes with
    | none =>
      rw [swapIn, swapIn, Manifest.load_of_notText h ht, Manifest.load_of_notText h ht]
      rfl
    | some text =>
      rw [swapIn, swapIn, Manifest.load_of_text h ht, Manifest.load_of_text h ht]
      simp only [List.map_append, Manifest.succeededEntries_tickless now now' path text]
      rfl

/-- A reload enters the same at any time. -/
theorem reload_tickless : (s.reload disk now path).outcome.entries.map (·.tickless) =
    (s.timeless.reload disk now' path).outcome.entries.map (·.tickless) := by
  have hswap := s.swapIn_tickless disk now now' path
  have hfrom : s.timeless.isFrom path = s.isFrom path := rfl
  have hsum : s.timeless.current.checksum = s.current.checksum := rfl
  unfold reload
  rw [hfrom, hsum]
  cases s.isFrom path with
  | false => exact hswap
  | true =>
    cases Manifest.fileChecksum disk path with
    | error e => rfl
    | ok checksum =>
      by_cases hc : checksum = s.current.checksum
      · simp only [hc, ↓reduceIte]
      · simp only [hc, ↓reduceIte]
        exact hswap

end Store

namespace Handler

section AnyTime

variable (h : Handler) (disk : Disk) (tick tick' : Tick)

theorem queryEntry_tickless (operation : Operation) (input : String) (outcome : Outcome) :
    (queryEntry tick operation input outcome).tickless = (queryEntry tick' operation input outcome).tickless := by
  rw [Journal.tickless_eq_iff]
  exact ⟨rfl, rfl, rfl⟩

/-- A request enters the same at any time, whatever the load time was. -/
theorem handle_tickless (request : Request) : (h.handle disk tick request).entries.map (·.tickless) =
    (h.timeless.handle disk tick' request).entries.map (·.tickless) := by
  cases request with
  | search query => exact congrArg ([·]) (queryEntry_tickless tick tick' .search query _)
  | all => exact congrArg ([·]) (queryEntry_tickless tick tick' .all "" _)
  | name name => exact congrArg ([·]) (queryEntry_tickless tick tick' .name name _)
  | headers => rfl
  | info => rfl
  | reload => exact h.store.reload_tickless disk tick.time tick'.time h.manifestPath

theorem handleText_tickless (text : String) : (h.handleText disk tick text).entries.map (·.tickless) =
    (h.timeless.handleText disk tick' text).entries.map (·.tickless) := by
  unfold handleText
  cases Json.parse text with
  | error fault => rfl
  | ok value =>
    dsimp only
    unfold handleJson
    cases Request.ofJson value with
    | ok request => exact handle_tickless h disk tick tick' request
    | error mismatch => rfl

/-- Responses that differ in load times are rejected alike. -/
theorem rejectedEntries_tickless {response response' : Response} (hr : response.timeless = response'.timeless) :
    (rejectedEntries tick.time response).map (·.tickless) =
      (rejectedEntries tick'.time response').map (·.tickless) := by
  have htimeless (time : Instant) (response : Response) :
      rejectedEntries time response.timeless = rejectedEntries time response := by
    cases response with
    | ok reply => cases reply <;> rfl
    | error e => rfl
  rw [← htimeless, hr, htimeless]
  cases response' <;> rfl

/-- A line enters the same at any time. -/
theorem handleLine_tickless (line : Text.Bytes) :
    (h.handleLine disk tick line).map (·.entries.map (·.tickless)) =
      (h.timeless.handleLine disk tick' line).map (·.entries.map (·.tickless)) := by
  unfold handleLine
  cases Request.textOfLine line with
  | error e => rfl
  | ok text? =>
    cases text? with
    | none => rfl
    | some text =>
      have hshown := handleText_shown disk h tick tick' text
      have hrejected := rejectedEntries_tickless tick tick' (congrArg Prod.snd hshown)
      simp only [Option.map_some, List.map_append, handleText_tickless h disk tick tick' text, hrejected]

end AnyTime

variable (disk : Disk)

/-- Handlers that differ in load times enter the same at a line, at any time. -/
theorem handleLine_tickless_alike {h h' : Handler} (hh : h.timeless = h'.timeless) (tick tick' : Tick)
    (line : Text.Bytes) : (h.handleLine disk tick line).map (·.entries.map (·.tickless)) =
      (h'.handleLine disk tick' line).map (·.entries.map (·.tickless)) := by
  rw [handleLine_tickless h disk tick tick, hh, ← handleLine_tickless h' disk tick' tick]

/-- Handlers that differ in load times enter the same at all lines, whatever the clocks. -/
theorem exchanges_tickless {h h' : Handler} (hh : h.timeless = h'.timeless) (clock clock' : Clock) (n n' : Nat)
    (lines : List Text.Bytes) :
    ((h.exchanges disk clock n lines).flatMap (·.entries)).map (·.tickless) =
      ((h'.exchanges disk clock' n' lines).flatMap (·.entries)).map (·.tickless) := by
  induction lines generalizing h h' n n' with
  | nil => rfl
  | cons line rest ih =>
    have hshown := handleLine_alike disk hh (clock n) (clock' n') line
    have hentries := handleLine_tickless_alike disk hh (clock n) (clock' n') line
    cases hl : h.handleLine disk (clock n) line with
    | none =>
      rw [hl, Option.map_none, eq_comm, Option.map_eq_none_iff] at hshown
      rw [exchanges_of_skipped hl, exchanges_of_skipped hshown]
      exact ih hh (n + 1) (n' + 1)
    | some handled =>
      rw [hl, Option.map_some, eq_comm, Option.map_eq_some_iff] at hshown
      obtain ⟨handled', hl', hafter⟩ := hshown
      rw [hl, hl', Option.map_some, Option.map_some, Option.some.injEq] at hentries
      rw [exchanges_of_handled hl, exchanges_of_handled hl', List.flatMap_cons, List.flatMap_cons, List.map_append,
        List.map_append, hentries, ih (congrArg Prod.fst hafter).symm (n + 1) (n' + 1)]

/-- **At other times the loop enters the same** but for times and identifiers. -/
theorem serve_tickless (h : Handler) (clock clock' : Clock) (input : Text.Bytes) :
    (h.serve disk clock {} input).entries.map (·.tickless) =
      (h.serve disk clock' {} input).entries.map (·.tickless) := by
  have hlines := exchanges_tickless disk (h := h) rfl clock clock' 0 0 (Text.byteLines input)
  rw [serve_entries, serve_entries, List.cons_append, List.cons_append, List.map_cons, List.map_cons, List.map_append,
    List.map_append, hlines]
  rfl

end Handler

/-! ## Recorded runs -/

namespace Writing

/-- What is recorded of a run: its end, and the lines of its journal. -/
structure Recorded where
  ended : Ended
  lines : List String

/-- The loop with a journal of this least severity. -/
def recorded (least : Severity) (h : Handler) (disk : Disk) (clock : Clock) (sink : Sink) (input : Text.Bytes) :
    Recorded :=
  let (ended, book) := (serve disk clock h sink input).run ⟨least, []⟩
  ⟨ended, book.lines⟩

theorem recorded_eq (least : Severity) (h : Handler) (disk : Disk) (clock : Clock) (sink : Sink) (input : Text.Bytes) :
    let served := h.serve disk clock sink input
    recorded least h disk clock sink input = ⟨served.ended, Journal.lines least served.entries⟩ := by
  intro served
  rw [recorded, serve_writes disk clock h sink input, List.nil_append]

/-- **The least severity of the journal changes nothing but which lines are written.** Under a higher one the loop
delivers the same, ends with the same handler and the same error, and writes just the lines that tell at least this
severity, in their order. If it runs at other times and with other identifiers, this holds but for these. -/
theorem least_severity_only_drops (h : Handler) (disk : Disk) (input : Text.Bytes) {low high : Severity}
    (hle : low.rank ≤ high.rank) :
    (∀ clock sink,
      let verbose := recorded low h disk clock sink input
      let terse := recorded high h disk clock sink input
      terse.ended = verbose.ended ∧ verbose.ended = (h.serve disk clock sink input).ended ∧
        (∀ line ∈ verbose.lines, Journal.isAtLeast low line = true) ∧
        terse.lines = verbose.lines.filter (Journal.isAtLeast high)) ∧
    ∀ clock clock',
      let verbose := recorded low h disk clock {} input
      let terse := recorded high h disk clock' {} input
      AlikeButTimes terse.ended.delivered verbose.ended.delivered ∧
        terse.ended.handler.timeless = verbose.ended.handler.timeless ∧
        terse.ended.failure = verbose.ended.failure ∧
        List.Forall₂ Journal.AlikeButTicks terse.lines (verbose.lines.filter (Journal.isAtLeast high)) := by
  constructor
  · intro clock sink
    simp only [recorded_eq]
    exact ⟨trivial, trivial, fun line => Journal.isAtLeast_of_mem_lines, Journal.lines_eq_filter hle _⟩
  · intro clock clock'
    simp only [recorded_eq, ← Journal.lines_eq_filter hle]
    refine ⟨h.serve_alike disk clock' input clock, ?_, ?_,
      Journal.lines_alike high (Handler.serve_tickless disk h clock' clock input)⟩
    · simp only [Handler.Served.ended, Handler.serve_handler]
      exact Handler.behind_alike rfl (Handler.exchanges_alike disk rfl clock' clock 0 0 (Text.byteLines input))
    · simp only [Handler.Served.ended, Handler.serve_failure]

/-- A reload of a file with a malformed row, an answer that finds it, and a line that is no request, under two
severities and at two times. -/
theorem least_severity_only_drops_with_rejection :
    let h : Handler := ⟨.ofManifest (.empty ⟨0⟩), {}, "m.csv"⟩
    let disk : Disk := fun _ => .ok (Text.encode "Name\nA/ One")
    let early : Clock := fun n => ⟨⟨n⟩, "first"⟩
    let late : Clock := fun n => ⟨⟨1000000000 + n⟩, "second"⟩
    let input := Text.encode "\x7b\"op\":\"reload\"\x7d\n\x7b\"op\":\"all\"\x7d\ngarbage\n\x7b\"op\":\"info\"\x7d"
    let verbose := recorded .trace h disk early {} input
    let terse := recorded .warn h disk early {} input
    let later := recorded .warn h disk late {} input
    Severity.trace.rank ≤ Severity.warn.rank ∧ verbose.lines.length = 8 ∧ terse.lines.length = 2 ∧
      terse.ended = verbose.ended ∧ terse.lines = verbose.lines.filter (Journal.isAtLeast .warn) ∧
      AlikeButTimes later.ended.delivered verbose.ended.delivered ∧
      List.Forall₂ Journal.AlikeButTicks later.lines (verbose.lines.filter (Journal.isAtLeast .warn)) := by
  intro h disk early late input verbose terse later
  have hle : Severity.trace.rank ≤ Severity.warn.rank := by decide
  obtain ⟨hsame, hmasked⟩ := least_severity_only_drops h disk input hle
  obtain ⟨hended, -, -, hlines⟩ := hsame early {}
  obtain ⟨hdelivered, -, -, halike⟩ := hmasked early late
  exact ⟨hle, by decide +kernel, by decide +kernel, hended, hlines, hdelivered, halike⟩

end Writing

end ShipManifest

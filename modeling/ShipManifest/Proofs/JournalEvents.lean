import ShipManifest.Proofs.Reloading
import ShipManifest.Service.Serve

/-!
# Events of operations

Which events an operation enters into the journal (`Journal.OfEvents`): a load, a reload, a request, and a line of the
input. A request enters no rejection (`Handler.handle_events`), and the beginning and the end of the request loop are
events of no line (`Handler.handleLine_events`).
-/

namespace ShipManifest

namespace Journal

/-- Each of the entries is one of these events. -/
def OfEvents (events : List Event) (entries : List Entry) : Prop :=
  ∀ e ∈ entries, ∃ event ∈ events, e.event = event.name

namespace OfEvents

variable {events : List Event} {xs ys : List Entry}

@[simp] theorem nil : OfEvents events [] := by
  simp [OfEvents]

@[simp] theorem cons_iff {e : Entry} :
    OfEvents events (e :: xs) ↔ (∃ event ∈ events, e.event = event.name) ∧ OfEvents events xs :=
  List.forall_mem_cons

@[simp] theorem append_iff : OfEvents events (xs ++ ys) ↔ OfEvents events xs ∧ OfEvents events ys :=
  List.forall_mem_append

theorem mono {events' : List Event} (h : OfEvents events xs) (hsub : events ⊆ events') : OfEvents events' xs := by
  intro e he
  obtain ⟨event, hevent, hname⟩ := h e he
  exact ⟨event, hsub hevent, hname⟩

/-- Events have different names, so no entry is of another event. -/
theorem event_ne (h : OfEvents events xs) {other : Event} (hother : other ∉ events) :
    ∀ e ∈ xs, e.event ≠ other.name := by
  have hname : ∀ a b : Event, a.name = b.name → a = b := by
    intro a b
    cases a <;> cases b <;> decide
  intro e he heq
  obtain ⟨event, hevent, hentry⟩ := h e he
  exact hother (hname event other (hentry.symm.trans heq) ▸ hevent)

end OfEvents

end Journal

/-! ## Loads and reloads -/

namespace Manifest

open Journal (Event OfEvents)

variable (disk : Disk) (now : Instant) (path : String)

theorem failedEntries_events (e : LoadError) :
    OfEvents [Event.loadBegin, .loadFailed] (failedEntries now path e) := by
  simp [failedEntries, Event.entry]

theorem succeededEntries_events (m : Manifest) :
    OfEvents [Event.loadBegin, .loaded] (succeededEntries now path m) := by
  unfold succeededEntries loadedEntries
  split <;> simp [Event.entry]

/-- The events of a reload that swaps. -/
theorem swappedEntries_events (m : Manifest) (fields : List (String × String)) :
    OfEvents [Event.loadBegin, .loaded, .reloaded]
      (succeededEntries now path m ++ [Event.reloaded.entry now fields]) := by
  refine OfEvents.append_iff.mpr ⟨(succeededEntries_events now path m).mono (by decide), ?_⟩
  simp [Event.entry]

end Manifest

namespace Store

open Journal (Event OfEvents)

/-- The events of a reload. -/
def reloadEvents : List Event :=
  [.loadBegin, .loaded, .loadFailed, .reloaded]

theorem reload_events (s : Store) (disk : Disk) (now : Instant) (path : String) :
    OfEvents reloadEvents (s.reload disk now path).outcome.entries := by
  rcases s.reload_cases disk now path with ⟨_, -, -, he⟩ | ⟨reason, -, -, he⟩ | ⟨_, -, -, he⟩ | ⟨_, -, -, -, he⟩ |
    ⟨_, text, -, -, -, he⟩
  · rw [he]
    exact .nil
  · rw [he]
    exact (Manifest.failedEntries_events now path _).mono (by decide)
  · rw [he]
    exact .nil
  · rw [he]
    exact (Manifest.failedEntries_events now path _).mono (by decide)
  · rw [he]
    exact (Manifest.swappedEntries_events now path _ _).mono (by decide)

end Store

/-! ## Lines -/

namespace Handler

open Journal (Event OfEvents)

/-- The events of a request. -/
def requestEvents : List Event :=
  .queryComplete :: Store.reloadEvents

/-- The events of a line. -/
def lineEvents : List Event :=
  .requestRejected :: .queryComplete :: Store.reloadEvents

variable (h : Handler) (disk : Disk) (tick : Tick)

theorem handle_events (request : Request) : OfEvents requestEvents (h.handle disk tick request).entries := by
  cases request with
  | search query => simp [handle, answer, queryEntry, requestEvents, Event.entry]
  | all => simp [handle, answer, queryEntry, requestEvents, Event.entry]
  | name name => simp [handle, answer, queryEntry, requestEvents, Event.entry]
  | headers => exact .nil
  | info => exact .nil
  | reload => exact (h.store.reload_events disk tick.time h.manifestPath).mono (by decide)

theorem handleText_events (text : String) : OfEvents requestEvents (h.handleText disk tick text).entries := by
  unfold handleText
  cases Json.parse text with
  | error fault => exact .nil
  | ok value =>
    dsimp only
    unfold handleJson
    cases Request.ofJson value with
    | error mismatch => exact .nil
    | ok request => exact h.handle_events disk tick request

theorem rejectedEntries_events (time : Instant) (response : Response) :
    OfEvents lineEvents (rejectedEntries time response) := by
  cases response with
  | ok reply => exact .nil
  | error e => simp [rejectedEntries, rejectedEntry, lineEvents, Event.entry]

theorem handleLine_events {line : Text.Bytes} {handled : Handled}
    (hl : h.handleLine disk tick line = some handled) : OfEvents lineEvents handled.entries := by
  obtain ⟨before, hbefore, rfl⟩ := Option.map_eq_some_iff.mp hl
  refine Journal.OfEvents.append_iff.mpr ⟨?_, rejectedEntries_events tick.time before.response⟩
  cases htext : Request.textOfLine line with
  | error e =>
    rw [htext] at hbefore
    cases hbefore
    exact .nil
  | ok text? =>
    rw [htext] at hbefore
    obtain ⟨text, -, rfl⟩ := Option.map_eq_some_iff.mp hbefore
    exact (h.handleText_events disk tick text).mono (by decide)

end Handler

end ShipManifest

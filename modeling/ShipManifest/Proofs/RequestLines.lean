import ShipManifest.Proofs.JournalTold
import ShipManifest.Proofs.Reloading
import ShipManifest.Service.Handler

/-!
# Journal lines of one request

A reader of the journal knows which lines belong together if all lines of a request tell one identifier
(`Journal.Attributable`). Only the handler knows it.

* What was found is entered by the handler, with the identifier of the request (`Handler.answer_tellId`).
* What a reload enters has no identifier, whether it succeeds or fails (`Store.reload_tellId`). It enters something
  exactly if it comes to a load (`Store.reload_entries_eq_nil_iff`), that is, unless the comparison before the load
  finds the file unchanged or cannot read it (`Store.Loads`).

Main statement: the lines of a request can be attributed to it unless it is a reload that comes to a load
(`Handler.handle_attributable_iff`). No line of such a reload tells for which request it was made
(`Handler.swap_not_attributable`).
-/

namespace ShipManifest

/-! ## Identifiers in lines -/

namespace Journal

/-- All of the lines tell this identifier of a request, or none of them tells any. -/
def TellId (id? : Option String) (lines : List String) : Prop :=
  ∀ line ∈ lines, told "request_id" line = id?

/-- The lines can be attributed to one request: all of them tell the same identifier. -/
def Attributable (lines : List String) : Prop :=
  ∃ id, TellId (some id) lines

variable {id? : Option String}

theorem TellId.nil : TellId id? [] :=
  fun _ hline => absurd hline List.not_mem_nil

/-- Lines tell the identifiers that were entered. -/
theorem tellId_lines_iff {entries : List Entry} :
    TellId id? (lines .trace entries) ↔ ∀ e ∈ entries, e.fields.lookup "request_id" = id? := by
  have htold : ∀ e : Entry, told "request_id" e.line = e.fields.lookup "request_id" :=
    fun e => told_field e (by decide)
  rw [TellId, lines_trace, List.forall_mem_map]
  simp only [htold]

/-- Lines without identifiers cannot be attributed, unless there are none. -/
theorem attributable_iff_of_none {lines : List String} (h : TellId none lines) : Attributable lines ↔ lines = [] := by
  constructor
  · rintro ⟨id, hid⟩
    refine List.eq_nil_iff_forall_not_mem.mpr fun line hline => ?_
    have hsome : none = some id := (h line hline).symm.trans (hid line hline)
    cases hsome
  · rintro rfl
    exact ⟨"", .nil⟩

end Journal

/-! ## Loads and reloads -/

namespace Manifest

open Journal (TellId tellId_lines_iff)

theorem failedEntries_tellId (now : Instant) (path : String) (e : LoadError) :
    TellId none (Journal.lines .trace (failedEntries now path e)) := by
  rw [tellId_lines_iff, failedEntries, List.forall_mem_cons, List.forall_mem_singleton]
  exact ⟨rfl, rfl⟩

theorem succeededEntries_tellId (now : Instant) (path : String) (m : Manifest) :
    TellId none (Journal.lines .trace (succeededEntries now path m)) := by
  rw [tellId_lines_iff, succeededEntries, loadedEntries, List.forall_mem_cons, List.forall_mem_cons]
  refine ⟨rfl, rfl, ?_⟩
  split
  · rw [List.forall_mem_singleton]
    rfl
  · exact List.forall_mem_nil _

end Manifest

namespace Store

open Journal (TellId tellId_lines_iff)

/-- A reload comes to a load: the current manifest is not from the path, or the file has another checksum. -/
def Loads (s : Store) (disk : Disk) (path : String) : Prop :=
  s.isFrom path = false ∨ ∃ bytes, disk path = .ok bytes ∧ Checksum.ofBytes bytes ≠ s.current.checksum

variable {s : Store} {disk : Disk} {path : String}

theorem loads_of_unreadable {reason : ReadFailure} (h : disk path = .error reason) :
    s.Loads disk path ↔ s.isFrom path = false := by
  simp [Loads, h]

theorem loads_of_readable {bytes : Text.Bytes} (h : disk path = .ok bytes) :
    s.Loads disk path ↔ ¬ s.UpToDate path bytes := by
  rw [UpToDate, ← isFrom_iff, not_and_or, Bool.not_eq_true]
  simp [Loads, h]

variable (s disk path) (now : Instant)

/-- What a reload enters has no identifier. -/
theorem reload_tellId : TellId none (Journal.lines .trace (s.reload disk now path).outcome.entries) := by
  rcases s.reload_cases disk now path with ⟨_, -, -, he⟩ | ⟨_, -, -, he⟩ | ⟨_, -, -, he⟩ | ⟨_, -, -, -, he⟩ |
    ⟨_, text, -, -, -, he⟩
  · rw [he]
    exact .nil
  · rw [he]
    exact Manifest.failedEntries_tellId now path _
  · rw [he]
    exact .nil
  · rw [he]
    exact Manifest.failedEntries_tellId now path _
  · have hloaded := Manifest.succeededEntries_tellId now path (.ofFile now path text)
    rw [tellId_lines_iff] at hloaded ⊢
    rw [he, List.forall_mem_append, List.forall_mem_singleton]
    exact ⟨hloaded, rfl⟩

/-- A reload enters something exactly if it comes to a load. -/
theorem reload_entries_eq_nil_iff : (s.reload disk now path).outcome.entries = [] ↔ ¬ s.Loads disk path := by
  rcases s.reload_cases disk now path with ⟨_, h, hfrom, he⟩ | ⟨_, h, hfrom, he⟩ | ⟨_, h, hup, he⟩ |
    ⟨_, h, hup, -, he⟩ | ⟨_, _, h, hup, -, he⟩
  · simp [he, loads_of_unreadable h, hfrom]
  · simp [he, loads_of_unreadable h, hfrom, Manifest.failedEntries]
  · simp [he, loads_of_readable h, hup]
  · simp [he, loads_of_readable h, hup, Manifest.failedEntries]
  · simp [he, loads_of_readable h, hup]

end Store

/-! ## Requests -/

namespace Handler

open Journal (Attributable TellId tellId_lines_iff)

/-- What was found is told with the identifier of the request. -/
theorem answer_tellId (h : Handler) (tick : Tick) (operation : Operation) (input : String) (outcome : Outcome) :
    TellId (some tick.requestId) (Journal.lines .trace (h.answer tick operation input outcome).entries) := by
  rw [tellId_lines_iff, answer, List.forall_mem_singleton]
  rfl

/-- The lines of a request tell its identifier, but those of a reload tell none. -/
theorem handle_tellId (h : Handler) (disk : Disk) (tick : Tick) (request : Request) :
    TellId (if request = .reload then none else some tick.requestId)
      (Journal.lines .trace (h.handle disk tick request).entries) := by
  cases request with
  | search query => exact h.answer_tellId tick .search query _
  | all => exact h.answer_tellId tick .all "" _
  | name name => exact h.answer_tellId tick .name name _
  | headers => exact .nil
  | info => exact .nil
  | reload => exact h.store.reload_tellId disk h.manifestPath tick.time

/-- **The lines of a request can be attributed to it unless it is a reload that comes to a load.** They tell the
identifier of the request, but those of a reload tell none. -/
theorem handle_attributable_iff (h : Handler) (disk : Disk) (tick : Tick) (request : Request) :
    let lines := Journal.lines .trace (h.handle disk tick request).entries
    (Attributable lines ↔ ¬ (request = .reload ∧ h.store.Loads disk h.manifestPath)) ∧
      TellId (if request = .reload then none else some tick.requestId) lines := by
  intro lines
  have htell : TellId (if request = .reload then none else some tick.requestId) lines :=
    h.handle_tellId disk tick request
  refine ⟨?_, htell⟩
  by_cases hreload : request = .reload
  · subst hreload
    have hlines : lines = (h.handle disk tick .reload).entries.map (·.line) := Journal.lines_trace _
    calc Attributable lines ↔ lines = [] := Journal.attributable_iff_of_none htell
      _ ↔ (h.handle disk tick .reload).entries = [] := by rw [hlines, List.map_eq_nil_iff]
      _ ↔ ¬ h.store.Loads disk h.manifestPath := h.store.reload_entries_eq_nil_iff disk h.manifestPath tick.time
      _ ↔ ¬ (Request.reload = .reload ∧ h.store.Loads disk h.manifestPath) := by simp
  · rw [if_neg hreload] at htell
    exact iff_of_true ⟨tick.requestId, htell⟩ fun hloads => hreload hloads.1

/-- A table with a malformed row is swapped in, and none of the four lines tells for which request. -/
theorem swap_not_attributable :
    let h : Handler := ⟨.ofManifest (.parse ⟨0⟩ "Name\n"), {}, "m.csv"⟩
    let disk : Disk := fun _ => .ok (Text.encode "Name\nA/ One\n")
    let handled := h.handle disk ⟨⟨1⟩, "id"⟩ .reload
    let lines := Journal.lines .trace handled.entries
    handled.response = .ok (.reloaded (.swapped 1)) ∧
      lines.map (Journal.told "event") = [some "MANIFEST_LOAD_BEGIN", some "MANIFEST_LOADED", some "MANIFEST_LOADED",
        some "MANIFEST_RELOADED"] ∧
      TellId none lines ∧ ¬ Attributable lines := by
  intro h disk handled lines
  have htell : TellId none lines := h.handle_tellId disk ⟨⟨1⟩, "id"⟩ .reload
  have hevents : lines.map (Journal.told "event") = handled.entries.map fun e => some e.event := by
    simp [lines, Journal.lines_trace]
  have hnames : handled.entries.map (fun e => some e.event) = [some "MANIFEST_LOAD_BEGIN", some "MANIFEST_LOADED",
      some "MANIFEST_LOADED", some "MANIFEST_RELOADED"] := by decide +kernel
  refine ⟨by decide +kernel, hevents.trans hnames, htell, ?_⟩
  rw [Journal.attributable_iff_of_none htell]
  intro hnil
  rw [hnil, hnames] at hevents
  cases hevents

end Handler

end ShipManifest

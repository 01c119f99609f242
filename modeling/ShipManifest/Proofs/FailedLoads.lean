import ShipManifest.Proofs.JournalEvents

/-!
# Failed loads in the journal

A result is reported if the journal, whatever its least severity, holds one entry of a failed load with the path and the
code of the error, and none if there is no error (`Logged.Reported`).

* Every load is reported (`Manifest.load_reported`), because a failure is entered as an error.
* A reload that loads is reported, too, but the comparison before the load enters nothing. So a reload is reported
  exactly if it is not the comparison that meets a file that cannot be read (`Store.reload_reported_iff`): the file
  behind the current manifest can get lost without a word in the journal (`Store.lost_file_not_reported`).
-/

namespace ShipManifest

/-! ## Reports -/

namespace Journal

/-- The entries of failed loads that a journal with this least severity holds. -/
def failedLoads (least : Severity) (entries : List Entry) : List Entry :=
  (kept least entries).filter fun e => e.event == Event.loadFailed.name

theorem failedLoads_eq_nil {events : List Event} {entries : List Entry} (h : OfEvents events entries)
    (hother : .loadFailed ∉ events) (least : Severity) : failedLoads least entries = [] := by
  rw [failedLoads, List.filter_eq_nil_iff]
  intro e he
  simpa using h.event_ne hother e (List.mem_filter.mp he).1

/-- The entry is an error and tells a path and a code. -/
structure Entry.TellsFailure (e : Entry) (path code : String) : Prop where
  severity : e.severity = .error
  path : e.fields.lookup "path" = some path
  code : e.fields.lookup "code" = some code

end Journal

/-- The result of loading the path is reported: if there is an error, every journal holds exactly one entry of a failed
load, which tells the path and the code of the error, and otherwise none. -/
structure Logged.Reported {α : Type} (logged : Logged (Except LoadError α)) (path : String) : Prop where
  failed : ∀ least code, (∃ e, logged.result = .error e ∧ e.code = code) ↔
    ∃ entry, Journal.failedLoads least logged.entries = [entry] ∧ entry.TellsFailure path code
  succeeded : ∀ least a, logged.result = .ok a → Journal.failedLoads least logged.entries = []

section Reports

variable {α : Type} {path : String}

theorem failedLoads_failedEntries (least : Severity) (now : Instant) (path : String) (e : LoadError) :
    Journal.failedLoads least (Manifest.failedEntries now path e) =
      [⟨now, .error, Journal.Event.loadFailed.name, [("path", path), ("code", e.code), ("error", e.message)]⟩] := by
  cases least <;> rfl

/-- What a load that fails enters is a report. -/
theorem reported_failedEntries (now : Instant) (path : String) (e : LoadError) :
    Logged.Reported (α := α) ⟨.error e, Manifest.failedEntries now path e⟩ path := by
  constructor
  · intro least code
    constructor
    · rintro ⟨e', he, rfl⟩
      cases he
      exact ⟨_, failedLoads_failedEntries least now path e, rfl, rfl, rfl⟩
    · rintro ⟨entry, hentry, htells⟩
      rw [failedLoads_failedEntries, List.cons.injEq] at hentry
      rw [← hentry.1] at htells
      exact ⟨e, rfl, Option.some.inj htells.code⟩
  · intro least a h
    cases h

/-- A success without entries of failed loads is reported. -/
theorem reported_ok (a : α) (path : String) {events : List Journal.Event} {entries : List Journal.Entry}
    (h : Journal.OfEvents events entries) (hother : .loadFailed ∉ events) : Logged.Reported ⟨.ok a, entries⟩ path := by
  have hnone := Journal.failedLoads_eq_nil h hother
  constructor
  · intro least code
    constructor
    · rintro ⟨e, he, -⟩
      cases he
    · rintro ⟨entry, hentry, -⟩
      rw [hnone least] at hentry
      cases hentry
  · exact fun least _ _ => hnone least

/-- An error without entries is not reported. -/
theorem not_reported_silent (e : LoadError) (path : String) : ¬ Logged.Reported (α := α) ⟨.error e, []⟩ path := by
  intro h
  obtain ⟨entry, hentry, -⟩ := (h.failed .error e.code).mp ⟨e, rfl, rfl⟩
  cases hentry

end Reports

/-! ## Loads -/

namespace Manifest

/-- Every load is reported. -/
theorem load_reported (disk : Disk) (now : Instant) (path : String) : (load disk now path).Reported path := by
  cases h : disk path with
  | error reason =>
    rw [load_of_unreadable h]
    exact reported_failedEntries now path _
  | ok bytes =>
    cases ht : Text.decode? bytes with
    | none =>
      rw [load_of_notText h ht]
      exact reported_failedEntries now path _
    | some text =>
      rw [load_of_text h ht]
      exact reported_ok _ path (succeededEntries_events now path _) (by decide)

end Manifest

/-! ## Reloads -/

namespace Store

/-- **A reload is reported unless the comparison meets a file that cannot be read.** -/
theorem reload_reported_iff (s : Store) (disk : Disk) (now : Instant) (path : String) :
    (s.reload disk now path).outcome.Reported path ↔
      ¬ (s.isFrom path = true ∧ ∃ reason, disk path = .error reason) := by
  rcases s.reload_cases disk now path with ⟨reason, h, hfrom, he⟩ | ⟨reason, h, hfrom, he⟩ | ⟨bytes, h, -, he⟩ |
    ⟨bytes, h, -, -, he⟩ | ⟨bytes, text, h, -, -, he⟩
  · rw [he]
    exact iff_of_false (not_reported_silent _ path) (not_not_intro ⟨hfrom, reason, h⟩)
  · rw [he]
    exact iff_of_true (reported_failedEntries now path _) (by simp [hfrom])
  · rw [he]
    have hentries : Journal.OfEvents [] [] := .nil
    exact iff_of_true (reported_ok _ path hentries (by simp)) (by simp [h])
  · rw [he]
    exact iff_of_true (reported_failedEntries now path _) (by simp [h])
  · rw [he]
    exact iff_of_true (reported_ok _ path (Manifest.swappedEntries_events now path _ _) (by decide)) (by simp [h])

/-- The file behind the current manifest is lost, and a reload that fails says nothing of it in the journal. -/
theorem lost_file_not_reported :
    let file : Disk := fun _ => .ok (Text.encode "Name\nA/ One")
    let lost : Disk := fun _ => .error .notFound
    ∃ s, (openAt file ⟨0⟩ "m.csv").result = .ok s ∧
      (s.reload lost ⟨1⟩ "m.csv").outcome.result = .error (.unreadable "m.csv" .notFound) ∧
      (s.reload lost ⟨1⟩ "m.csv").outcome.entries = [] ∧ ¬ (s.reload lost ⟨1⟩ "m.csv").outcome.Reported "m.csv" := by
  intro file lost
  let s := ofManifest (Manifest.ofFile ⟨0⟩ "m.csv" "Name\nA/ One")
  have hopened : (openAt file ⟨0⟩ "m.csv").result = .ok s := by
    rw [openAt, Manifest.load_of_text rfl (Text.decode?_encode _)]
    rfl
  have hreload : s.reload lost ⟨1⟩ "m.csv" = ⟨s, ⟨.error (.unreadable "m.csv" .notFound), []⟩⟩ := rfl
  refine ⟨s, hopened, ?_, ?_, ?_⟩
  · rw [hreload]
  · rw [hreload]
  · rw [hreload]
    exact not_reported_silent _ "m.csv"

end Store

end ShipManifest

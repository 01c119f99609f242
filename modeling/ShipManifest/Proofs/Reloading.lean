import ShipManifest.Store

/-!
# Reloads in the life of a store

* One reload: `Store.reload_cases` says everything that it can do, with the answer, the store behind it and the journal
  entries. Whether a load is needed is `Store.UpToDate`.
* Runs: `Store.Run` follows a store from its beginning through replacements and reloads, where every reload meets a disk
  of its own, because files may be edited between any two operations.
* Every reload of every run answers truly and leaves the snapshot that it should (`reloads_are_faithful`).
* A reload that succeeds leaves the snapshot of the text that the file holds (`Store.ReloadEvent.Live`), unless the file
  was exchanged for other bytes with the same checksum (`reload_live_or_collision`). Such an exchange goes unnoticed
  (`collision_unnoticed`).
-/

namespace ShipManifest

/-! ## One reload -/

namespace Manifest

variable {disk : Disk} {now : Instant} {path : String}

theorem readBytes_of_unreadable {reason : ReadFailure} (h : disk path = .error reason) :
    readBytes disk path = .error (.unreadable path reason) := by
  rw [readBytes, h]
  rfl

theorem readBytes_of_readable {bytes : Text.Bytes} (h : disk path = .ok bytes) :
    readBytes disk path = .ok bytes := by
  rw [readBytes, h]
  rfl

theorem load_of_unreadable {reason : ReadFailure} (h : disk path = .error reason) :
    load disk now path = ⟨.error (.unreadable path reason), failedEntries now path (.unreadable path reason)⟩ := by
  simp [load, readText, readBytes_of_unreadable h, failedEntries]

theorem load_of_notText {bytes : Text.Bytes} (h : disk path = .ok bytes) (ht : Text.decode? bytes = none) :
    load disk now path = ⟨.error (.notText path), failedEntries now path (.notText path)⟩ := by
  simp [load, readText, readBytes_of_readable h, ht, failedEntries]

theorem load_of_text {bytes : Text.Bytes} {text : String} (h : disk path = .ok bytes)
    (ht : Text.decode? bytes = some text) :
    load disk now path = ⟨.ok (ofFile now path text), succeededEntries now path (ofFile now path text)⟩ := by
  simp [load, readText, readBytes_of_readable h, ht, ofFile, succeededEntries]

/-- A load succeeds exactly on a text, and gives the manifest of the text. -/
theorem load_eq_ok_iff {m : Manifest} : (load disk now path).result = .ok m ↔
    ∃ bytes text, disk path = .ok bytes ∧ Text.decode? bytes = some text ∧ m = ofFile now path text := by
  cases h : disk path with
  | error reason => simp [load_of_unreadable h]
  | ok bytes =>
    cases ht : Text.decode? bytes with
    | none => simp [load_of_notText h ht, ht]
    | some text => simp [load_of_text h ht, ht, eq_comm]

end Manifest

namespace Store

/-- No load is needed: the current manifest came from the path, and the file's bytes have its checksum. -/
def UpToDate (s : Store) (path : String) (bytes : Text.Bytes) : Prop :=
  (∃ source, s.current.source = some source ∧ Path.components source = Path.components path) ∧
    Checksum.ofBytes bytes = s.current.checksum

theorem isFrom_iff {s : Store} {path : String} : s.isFrom path = true ↔
    ∃ source, s.current.source = some source ∧ Path.components source = Path.components path := by
  unfold isFrom
  cases s.current.source <;> simp [Path.same]

variable {s : Store} {disk : Disk} {now : Instant} {path : String} {bytes : Text.Bytes}

theorem fileChecksum_of_readable (h : disk path = .ok bytes) :
    Manifest.fileChecksum disk path = .ok (Checksum.ofBytes bytes) := by
  rw [Manifest.fileChecksum, Manifest.readBytes_of_readable h]
  rfl

theorem fileChecksum_of_unreadable {reason : ReadFailure} (h : disk path = .error reason) :
    Manifest.fileChecksum disk path = .error (.unreadable path reason) := by
  rw [Manifest.fileChecksum, Manifest.readBytes_of_unreadable h]
  rfl

/-- A store can be opened exactly on a text, and then holds the manifest of the text. -/
theorem openAt_eq_ok_iff : (openAt disk now path).result = .ok s ↔
    ∃ bytes text, disk path = .ok bytes ∧ Text.decode? bytes = some text ∧
      s = ofManifest (Manifest.ofFile now path text) := by
  have hopen : (openAt disk now path).result = (Manifest.load disk now path).result.map ofManifest := rfl
  rw [hopen]
  cases h : disk path with
  | error reason => simp [Manifest.load_of_unreadable h, Except.map]
  | ok bytes =>
    cases ht : Text.decode? bytes with
    | none => simp [Manifest.load_of_notText h ht, ht, Except.map]
    | some text => simp [Manifest.load_of_text h ht, ht, Except.map, eq_comm]

/-- A file that is up to date is not loaded. -/
theorem reload_of_upToDate (h : disk path = .ok bytes) (hup : s.UpToDate path bytes) :
    s.reload disk now path = ⟨s, ⟨.ok .unchanged, []⟩⟩ := by
  simp [reload, isFrom_iff.mpr hup.1, fileChecksum_of_readable h, hup.2]

/-- Any other file is loaded, whether it comes from another path or has another checksum. -/
theorem reload_of_stale (h : disk path = .ok bytes) (hup : ¬ s.UpToDate path bytes) :
    s.reload disk now path = s.swapIn disk now path := by
  cases hfrom : s.isFrom path with
  | true =>
    have hne : Checksum.ofBytes bytes ≠ s.current.checksum := fun he => hup ⟨isFrom_iff.mp hfrom, he⟩
    simp [reload, hfrom, fileChecksum_of_readable h, hne]
  | false => simp [reload, hfrom]

/-- **Everything that a reload can do.** A file that cannot be read is found out by the comparison, which says nothing
of it in the journal, or by the load; a file that can be read is up to date, or no text, or swapped in. -/
theorem reload_cases (s : Store) (disk : Disk) (now : Instant) (path : String) :
    (∃ reason, disk path = .error reason ∧ s.isFrom path = true ∧
      s.reload disk now path = ⟨s, ⟨.error (.unreadable path reason), []⟩⟩) ∨
    (∃ reason, disk path = .error reason ∧ s.isFrom path = false ∧ s.reload disk now path =
      ⟨s, ⟨.error (.unreadable path reason), Manifest.failedEntries now path (.unreadable path reason)⟩⟩) ∨
    (∃ bytes, disk path = .ok bytes ∧ s.UpToDate path bytes ∧ s.reload disk now path = ⟨s, ⟨.ok .unchanged, []⟩⟩) ∨
    (∃ bytes, disk path = .ok bytes ∧ ¬ s.UpToDate path bytes ∧ Text.decode? bytes = none ∧
      s.reload disk now path = ⟨s, ⟨.error (.notText path), Manifest.failedEntries now path (.notText path)⟩⟩) ∨
    (∃ bytes text, disk path = .ok bytes ∧ ¬ s.UpToDate path bytes ∧ Text.decode? bytes = some text ∧
      s.reload disk now path =
        let m := Manifest.ofFile now path text
        ⟨s.replace m, ⟨.ok (.swapped m.records.length), Manifest.succeededEntries now path m ++
          [Journal.Event.reloaded.entry now [("records", toString m.records.length)]]⟩⟩) := by
  cases h : disk path with
  | error reason =>
    cases hfrom : s.isFrom path with
    | true =>
      refine .inl ⟨reason, rfl, rfl, ?_⟩
      simp [reload, hfrom, fileChecksum_of_unreadable h]
    | false =>
      refine .inr (.inl ⟨reason, rfl, rfl, ?_⟩)
      simp [reload, hfrom, swapIn, Manifest.load_of_unreadable h]
  | ok bytes =>
    by_cases hup : s.UpToDate path bytes
    · exact .inr (.inr (.inl ⟨bytes, rfl, hup, reload_of_upToDate h hup⟩))
    · cases ht : Text.decode? bytes with
      | none =>
        refine .inr (.inr (.inr (.inl ⟨bytes, rfl, hup, ht, ?_⟩)))
        rw [reload_of_stale h hup, swapIn, Manifest.load_of_notText h ht]
      | some text =>
        refine .inr (.inr (.inr (.inr ⟨bytes, text, rfl, hup, ht, ?_⟩)))
        rw [reload_of_stale h hup, swapIn, Manifest.load_of_text h ht]

/-! ## Runs -/

/-- A reload in a run: the store before it, the disk and the path that it met, its answer, and the store behind it. -/
structure ReloadEvent where
  before : Store
  disk : Disk
  path : String
  answer : Except LoadError ReloadOutcome
  after : Store

/-- A store from its beginning on, with its reloads up to now, the last one first. Every operation meets a disk of its
own; `Given` tells which manifests are put in from outside. -/
inductive Run (Given : Manifest → Prop) : List ReloadEvent → Store → Prop
  | made {m : Manifest} : Given m → Run Given [] (ofManifest m)
  | opened {disk : Disk} {now : Instant} {path : String} {s : Store} :
      (openAt disk now path).result = .ok s → Run Given [] s
  | replaced {events : List ReloadEvent} {s : Store} {m : Manifest} :
      Given m → Run Given events s → Run Given events (s.replace m)
  | reloaded {events : List ReloadEvent} {s : Store} (disk : Disk) (now : Instant) (path : String) :
      Run Given events s →
      Run Given (⟨s, disk, path, (s.reload disk now path).outcome.result, (s.reload disk now path).store⟩ :: events)
        (s.reload disk now path).store

/-- The reload answers truly and leaves the snapshot that it should. A swap installs the manifest of the file's text
with the checksum of the file's bytes; any other answer leaves the very same snapshot; and there is an error exactly if
the file cannot be read, or has to be loaded and is no text. -/
structure ReloadEvent.Faithful (r : ReloadEvent) : Prop where
  swapped : ∀ n, r.answer = .ok (.swapped n) → ∃ bytes text, r.disk r.path = .ok bytes ∧
    Text.decode? bytes = some text ∧
    (∀ now, r.after.current.headers = (Manifest.parse now text).headers ∧
      r.after.current.records = (Manifest.parse now text).records ∧
      r.after.current.malformedRows = (Manifest.parse now text).malformedRows) ∧
    r.after.current.source = some r.path ∧
    r.after.current.checksum = Checksum.ofBytes bytes ∧
    Manifest.fileChecksum r.disk r.path = .ok r.after.current.checksum ∧
    n = r.after.current.records.length
  unchanged : r.answer = .ok .unchanged → r.after = r.before
  failed : ∀ e, r.answer = .error e → r.after = r.before
  fails_iff : (∃ e, r.answer = .error e) ↔ (∃ reason, r.disk r.path = .error reason) ∨
    ∃ bytes, r.disk r.path = .ok bytes ∧ ¬ r.before.UpToDate r.path bytes ∧ Text.decode? bytes = none

/-- One reload of any store is faithful. -/
theorem reload_faithful (s : Store) (disk : Disk) (now : Instant) (path : String) :
    ReloadEvent.Faithful
      ⟨s, disk, path, (s.reload disk now path).outcome.result, (s.reload disk now path).store⟩ := by
  rcases s.reload_cases disk now path with ⟨reason, h, -, he⟩ | ⟨reason, h, -, he⟩ | ⟨bytes, h, hup, he⟩ |
    ⟨bytes, h, hup, ht, he⟩ | ⟨bytes, text, h, hup, ht, he⟩
  · constructor <;> simp [he, h]
  · constructor <;> simp [he, h]
  · constructor <;> simp [he, h, hup]
  · constructor <;> simp [he, h, hup, ht]
  · constructor
    · intro n hn
      simp only [he, Except.ok.injEq, ReloadOutcome.swapped.injEq] at hn
      have hsum : (Manifest.ofFile now path text).checksum = Checksum.ofBytes bytes := by
        rw [← Text.encode_of_decode? ht]
        rfl
      refine ⟨bytes, text, h, ht, fun now' => ?_, ?_, ?_, ?_, ?_⟩
      · simp [he, replace, Manifest.ofFile, Manifest.parse, Manifest.ofRows]
      · simp [he, replace, Manifest.ofFile]
      · simp [he, replace, hsum]
      · simp [he, replace, hsum, fileChecksum_of_readable h]
      · simp [he, replace, hn]
    · simp [he]
    · simp [he]
    · simp [he, h, ht]

/-- **Every reload of every run is faithful.** -/
theorem reloads_are_faithful {Given : Manifest → Prop} {events : List ReloadEvent} {s : Store}
    (run : Run Given events s) : ∀ r ∈ events, r.Faithful := by
  induction run with
  | made _ => simp
  | opened _ => simp
  | replaced _ _ ih => exact ih
  | reloaded disk now path _ ih =>
    rw [List.forall_mem_cons]
    exact ⟨reload_faithful _ disk now path, ih⟩

/-- A run in which a file is loaded, read again unchanged, and spoilt. -/
theorem reloads_are_faithful_when_spoilt : ∃ events s, Run (fun _ => True) events s ∧
    events.map (·.answer.toOption) = [none, some .unchanged, some (.swapped 1)] ∧ ∀ r ∈ events, r.Faithful := by
  let good : Disk := fun _ => .ok (Text.encode "Name\nA/ One")
  let spoilt : Disk := fun _ => .ok [0x4E, 0xFF]
  have made : Run (fun _ => True) [] (ofManifest (Manifest.empty ⟨0⟩)) := .made trivial
  have run := Run.reloaded spoilt ⟨3⟩ "m.csv" (.reloaded good ⟨2⟩ "./m.csv" (.reloaded good ⟨1⟩ ".//m.csv" made))
  exact ⟨_, _, run, by decide +kernel, reloads_are_faithful run⟩

/-! ## What a successful reload shows -/

/-- The snapshot behind the reload shows what the file holds. -/
def ReloadEvent.Live (r : ReloadEvent) : Prop :=
  ∃ bytes text, r.disk r.path = .ok bytes ∧ Text.decode? bytes = some text ∧
    ∀ now, r.after.current.headers = (Manifest.parse now text).headers ∧
      r.after.current.records = (Manifest.parse now text).records

/-- The file holds other bytes than those that the current manifest was loaded from, with the same checksum. -/
def ReloadEvent.Collides (r : ReloadEvent) : Prop :=
  ∃ bytes now source text, r.disk r.path = .ok bytes ∧ r.before.current = Manifest.ofFile now source text ∧
    Text.encode text ≠ bytes ∧ Checksum.ofText text = Checksum.ofBytes bytes

end Store

namespace Manifest

/-- The manifests that can be made: of rows, of a text, or from a file. -/
inductive Made : Manifest → Prop
  | ofRows (now : Instant) (headers : List String) (rows : List (List String)) : Made (ofRows now headers rows)
  | parse (now : Instant) (text : String) : Made (parse now text)
  | loaded {disk : Disk} {now : Instant} {path : String} {m : Manifest} : (load disk now path).result = .ok m → Made m

/-- A manifest that names a source is what a file there was loaded as. -/
def Sourced (m : Manifest) : Prop :=
  ∀ source, m.source = some source → ∃ now text, m = ofFile now source text

theorem sourced_ofFile (now : Instant) (path text : String) : (ofFile now path text).Sourced := by
  intro source h
  cases h
  exact ⟨now, text, rfl⟩

theorem sourced_of_load {disk : Disk} {now : Instant} {path : String} {m : Manifest}
    (h : (load disk now path).result = .ok m) : m.Sourced := by
  obtain ⟨_, text, -, -, rfl⟩ := load_eq_ok_iff.mp h
  exact sourced_ofFile now path text

/-- Only loading names a source. -/
theorem Made.sourced {m : Manifest} (h : m.Made) : m.Sourced := by
  cases h with
  | ofRows now headers rows => exact fun _ h => nomatch h
  | parse now text => exact fun _ h => nomatch h
  | loaded h => exact sourced_of_load h

end Manifest

namespace Store

/-- A reload leaves a manifest that names a source only if it was loaded from there. -/
theorem sourced_reload {s : Store} (hs : s.current.Sourced) (disk : Disk) (now : Instant) (path : String) :
    (s.reload disk now path).store.current.Sourced := by
  rcases s.reload_cases disk now path with ⟨_, -, -, he⟩ | ⟨_, -, -, he⟩ | ⟨_, -, -, he⟩ | ⟨_, -, -, -, he⟩ |
    ⟨_, text, -, -, -, he⟩
  any_goals (rw [he]; exact hs)
  rw [he]
  exact Manifest.sourced_ofFile now path text

theorem sourced_openAt {disk : Disk} {now : Instant} {path : String} {s : Store}
    (h : (openAt disk now path).result = .ok s) : s.current.Sourced := by
  obtain ⟨_, text, -, -, rfl⟩ := openAt_eq_ok_iff.mp h
  exact Manifest.sourced_ofFile now path text

/-- All through a run, the current manifest names a source only if it was loaded from there. -/
theorem Run.sourced {events : List ReloadEvent} {s : Store} (run : Run Manifest.Made events s) :
    s.current.Sourced := by
  induction run with
  | made hm => exact hm.sourced
  | opened h => exact sourced_openAt h
  | replaced hm _ _ => exact hm.sourced
  | reloaded disk now path _ ih => exact sourced_reload ih disk now path

/-- A reload that succeeds on a store like that shows the file, or meets a collision. -/
theorem live_or_collides {s : Store} (hs : s.current.Sourced) (disk : Disk) (now : Instant) (path : String)
    {outcome : ReloadOutcome} (ho : (s.reload disk now path).outcome.result = .ok outcome) :
    let r : ReloadEvent := ⟨s, disk, path, (s.reload disk now path).outcome.result, (s.reload disk now path).store⟩
    r.Live ∨ outcome = .unchanged ∧ r.Collides := by
  intro r
  rcases s.reload_cases disk now path with ⟨reason, -, -, he⟩ | ⟨reason, -, -, he⟩ | ⟨bytes, h, hup, he⟩ |
    ⟨bytes, -, -, -, he⟩ | ⟨bytes, text, h, -, ht, he⟩
  · simp [he] at ho
  · simp [he] at ho
  · obtain ⟨⟨source, hsource, -⟩, hsum⟩ := hup
    obtain ⟨loadedAt, text, hcurrent⟩ := hs source hsource
    -- the checksums agree; what the snapshot shows depends on whether the bytes do
    by_cases hsame : Text.encode text = bytes
    · left
      refine ⟨bytes, text, h, ?_, fun now' => ?_⟩
      · rw [← hsame, Text.decode?_encode]
      · have hafter : r.after.current = Manifest.ofFile loadedAt source text := by
          rw [← hcurrent]
          exact congrArg (·.store.current) he
        rw [hafter]
        exact ⟨rfl, rfl⟩
    · right
      refine ⟨?_, bytes, loadedAt, source, text, h, hcurrent, hsame, ?_⟩
      · simpa [he] using ho.symm
      · rw [hsum, hcurrent]
        rfl
  · simp [he] at ho
  · left
    have hafter : r.after.current = Manifest.ofFile now path text := congrArg (·.store.current) he
    refine ⟨bytes, text, h, ht, fun now' => ?_⟩
    rw [hafter]
    exact ⟨rfl, rfl⟩

/-- **A reload that succeeds shows the file, up to collisions of the checksum.** -/
theorem reload_live_or_collision {events : List ReloadEvent} {s : Store} (run : Run Manifest.Made events s) :
    ∀ r ∈ events, ∀ outcome, r.answer = .ok outcome → r.Live ∨ outcome = .unchanged ∧ r.Collides := by
  induction run with
  | made _ => simp
  | opened _ => simp
  | replaced _ _ ih => exact ih
  | reloaded disk now path run ih =>
    rw [List.forall_mem_cons]
    exact ⟨fun _ ho => live_or_collides run.sourced disk now path ho, ih⟩

/-- A run in which a file is edited between two reloads. -/
theorem reload_live_or_collision_when_edited : ∃ events s, Run Manifest.Made events s ∧
    events.map (·.answer.toOption) = [some .unchanged, some (.swapped 2), some (.swapped 1)] ∧
    ∀ r ∈ events, ∀ outcome, r.answer = .ok outcome → r.Live ∨ outcome = .unchanged ∧ r.Collides := by
  let old : Disk := fun _ => .ok (Text.encode "Name\nA/ One")
  let edited : Disk := fun _ => .ok (Text.encode "Name\nA/ One\nB/ Two")
  have made : Run Manifest.Made [] (ofManifest (Manifest.empty ⟨0⟩)) := .made (.ofRows ⟨0⟩ [] [])
  have run := Run.reloaded edited ⟨3⟩ "m.csv" (.reloaded edited ⟨2⟩ "m.csv" (.reloaded old ⟨1⟩ "m.csv" made))
  exact ⟨_, _, run, by decide +kernel, reload_live_or_collision run⟩

/-- **An exchange of a file for one with the same checksum goes unnoticed**: the reload succeeds, and the snapshot shows
what the file no longer holds. -/
theorem collision_unnoticed : ¬ ∀ events s, Run Manifest.Made events s →
    ∀ r ∈ events, ∀ outcome, r.answer = .ok outcome → r.Live := by
  intro h
  let old : Disk := fun _ => .ok (Text.encode "Name\nplumless")
  let new : Disk := fun _ => .ok (Text.encode "Name\nbuckeroo")
  let s := ofManifest (Manifest.ofFile ⟨0⟩ "m.csv" "Name\nplumless")
  have hopened : (openAt old ⟨0⟩ "m.csv").result = .ok s := by
    rw [openAt, Manifest.load_of_text rfl (Text.decode?_encode _)]
    rfl
  have hup : s.UpToDate "m.csv" (Text.encode "Name\nbuckeroo") := ⟨⟨"m.csv", rfl, rfl⟩, by decide +kernel⟩
  have hreload : s.reload new ⟨1⟩ "m.csv" = ⟨s, ⟨.ok .unchanged, []⟩⟩ := reload_of_upToDate rfl hup
  have opened : Run Manifest.Made [] s := .opened hopened
  have run := Run.reloaded new ⟨1⟩ "m.csv" opened
  obtain ⟨bytes, text, hbytes, htext, hlive⟩ := h _ _ run _ List.mem_cons_self .unchanged (by rw [hreload])
  cases hbytes
  rw [Text.decode?_encode] at htext
  cases htext
  -- the snapshot still has the old record
  have hrecords := (hlive ⟨0⟩).2
  rw [hreload] at hrecords
  exact absurd hrecords (by decide +kernel)

end Store

end ShipManifest

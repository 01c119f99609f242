import Mathlib.Data.List.TakeWhile
import ShipManifest.Command.Host
import ShipManifest.Proofs.Dialogue
import ShipManifest.Proofs.JournalTold

/-!
# Runs on a simulated host

* A request and a boot read no files but those of their own paths (`Handler.handle_congr`, `boot_congr`). So a disk as
  far as it has been read will do for them.
* The simulated host has a disk, a clock and an input that are given, and writes into `Outputs`. How an action ends,
  what becomes of the sink, and what is written behind what was there, is `Outputs.Leaves`, which is composed along
  sequences (`Leaves.bind`, `Leaves.bind_error`).
* One turn leaves what the library says of its line (`Host.turn_of_skipped`, `Host.turn_of_taken`,
  `Host.turn_of_refused`), and so do all turns, by induction on the lines (`Host.foldlM_turn_leaves`). Hence the loop
  leaves what `Handler.serve` gives, whatever the sink is (`Host.serve_leaves`).
* Behind a boot, a command with one request leaves its response (`Host.Responds`).

Main statement: on the simulated host a command ends with the exit code of `Command.run`, and leaves its output and its
error output (`Host.run_simulated`).
-/

namespace ShipManifest

/-! ## What is read -/

section Reads

variable {disk disk' : Disk}

theorem Manifest.load_congr {path : String} (hread : disk path = disk' path) (now : Instant) :
    load disk now path = load disk' now path := by
  rw [load, load, readText, readText, readBytes, readBytes, hread]

theorem Store.reload_congr {path : String} (hread : disk path = disk' path) (s : Store) (now : Instant) :
    s.reload disk now path = s.reload disk' now path := by
  rw [reload, reload, swapIn, swapIn, Manifest.fileChecksum, Manifest.fileChecksum, Manifest.readBytes,
    Manifest.readBytes, Manifest.load_congr hread, hread]

section Requests

variable {h : Handler} (hread : disk h.manifestPath = disk' h.manifestPath) (tick : Tick)

include hread

/-- A request reads no file but that of the manifest. -/
theorem Handler.handle_congr (request : Request) : h.handle disk tick request = h.handle disk' tick request := by
  cases request with
  | reload => rw [handle, handle, Store.reload_congr hread]
  | _ => rfl

theorem Handler.handleText_congr (text : String) : h.handleText disk tick text = h.handleText disk' tick text := by
  unfold handleText handleJson
  simp only [handle_congr hread]

theorem Handler.handleLine_congr (line : Text.Bytes) : h.handleLine disk tick line = h.handleLine disk' tick line := by
  unfold handleLine
  simp only [funext (handleText_congr hread tick)]

theorem Command.handleFirst_congr (input : Text.Bytes) :
    handleFirst h disk tick input = handleFirst h disk' tick input := by
  unfold handleFirst
  simp only [Handler.handleText_congr hread]

end Requests

theorem Config.load_congr {path : String} (hread : disk path = disk' path) : load disk path = load disk' path := by
  rw [load, load, hread]

/-- A boot reads no files but those of the configuration and of the manifest that it names. -/
theorem boot_congr {path : String} (hconfig : disk path = disk' path)
    (hmanifest : ∀ config, Config.load disk' path = .ok config → disk config.manifestPath = disk' config.manifestPath)
    (now : Instant) : boot disk now path = boot disk' now path := by
  unfold boot
  rw [Config.load_congr hconfig]
  cases h : Config.load disk' path with
  | error e => rfl
  | ok config => simp only [Handler.ofConfig, Store.openAt, Manifest.load_congr (hmanifest config h)]

end Reads

/-- The first line of the first line is the first line. -/
theorem Command.firstLine_firstLine (input : Text.Bytes) : firstLine (firstLine input) = firstLine input := by
  have hhead : ∀ b ∈ input.takeWhile (· != 10), (b != 10) = true := fun b hb =>
    List.mem_takeWhile_imp (p := (· != 10)) hb
  rw [firstLine, firstLine, List.takeWhile_append_of_pos hhead, List.dropWhile_append_of_pos hhead]
  cases htail : input.dropWhile (· != 10) with
  | nil => simp
  | cons b rest =>
    have hb : (b != 10) = false := by
      have hne : input.dropWhile (· != 10) ≠ [] := by simp [htail]
      have hnot := List.head_dropWhile_not (· != 10) hne
      simpa only [htail, List.head_cons] using hnot
    simp [hb]

/-! ## The simulated host -/

/-- What is written on the way: into a sink the bytes that it has taken, and to the error output lines. -/
structure Outputs where
  sink : Sink
  delivered : Text.Bytes
  errors : List String

namespace Outputs

/-- Something that writes and can fail. What was written before a failure stays written. -/
abbrev Action := ExceptT ServiceError (StateM Outputs)

/-- Writes lines to the error output. -/
def report (lines : List String) : Action Unit :=
  modify fun outputs => { outputs with errors := outputs.errors ++ lines }

/-- Writes a line into the sink. -/
def deliver (text : Text.Bytes) : Action Unit :=
  .mk fun outputs =>
    let written := outputs.sink.writeLine text
    let outputs := { outputs with delivered := outputs.delivered ++ written.delivered }
    match written.result with
    | .error e => (.error e, outputs)
    | .ok sink => (.ok (), { outputs with sink })

/-- The action ends like this, leaves the second sink in the place of the first one, and writes these bytes and these
lines behind what has been written. -/
def Leaves {α : Type} (action : Action α) (result : Except ServiceError α) (before after : Sink) (bytes : Text.Bytes)
    (lines : List String) : Prop :=
  ∀ delivered errors,
    action.run.run ⟨before, delivered, errors⟩ = (result, ⟨after, delivered ++ bytes, errors ++ lines⟩)

namespace Leaves

variable {α β : Type} {action : Action α} {next : α → Action β} {a : α} {e : ServiceError}
  {result : Except ServiceError β} {s s' s'' : Sink} {xs ys : Text.Bytes} {ls ks : List String}

/-- What writes nothing. -/
theorem silent {result : Except ServiceError α} (h : ∀ outputs, action.run.run outputs = (result, outputs)) (s : Sink) :
    Leaves action result s s [] [] := by
  intro delivered errors
  rw [h, List.append_nil, List.append_nil]

theorem pure (a : α) (s : Sink) : Leaves (Pure.pure a) (.ok a) s s [] [] :=
  silent (fun _ => rfl) s

theorem throw (e : ServiceError) (s : Sink) : Leaves (MonadExcept.throw e : Action α) (.error e) s s [] [] :=
  silent (fun _ => rfl) s

theorem report (lines : List String) (s : Sink) : Leaves (report lines) (.ok ()) s s [] lines := by
  intro delivered errors
  rw [List.append_nil]
  rfl

theorem deliver_of_taken {text : Text.Bytes} (h : (s.writeLine text).result = .ok s') :
    Leaves (deliver text) (.ok ()) s s' (s.writeLine text).delivered [] := by
  intro delivered errors
  simp [Outputs.deliver, StateT.run, h]

theorem deliver_of_refused {text : Text.Bytes} (h : (s.writeLine text).result = .error e) :
    Leaves (deliver text) (.error e) s s (s.writeLine text).delivered [] := by
  intro delivered errors
  simp [Outputs.deliver, StateT.run, h]

theorem bind (h : Leaves action (.ok a) s s' xs ls) (hnext : Leaves (next a) result s' s'' ys ks) :
    Leaves (action >>= next) result s s'' (xs ++ ys) (ls ++ ks) := by
  intro delivered errors
  have hrest := hnext (delivered ++ xs) (errors ++ ls)
  rw [List.append_assoc, List.append_assoc] at hrest
  rw [ExceptT.run_bind, StateT.run_bind, h]
  exact hrest

theorem bind_error (h : Leaves action (.error e) s s' xs ls) : Leaves (action >>= next) (.error e) s s' xs ls := by
  intro delivered errors
  rw [ExceptT.run_bind, StateT.run_bind, h]
  rfl

theorem tryCatch_ok {handler : ServiceError → Action α} (h : Leaves action (.ok a) s s' xs ls) :
    Leaves (MonadExcept.tryCatch action handler) (.ok a) s s' xs ls := by
  intro delivered errors
  rw [ExceptT.run_tryCatch, StateT.run_bind, h]
  rfl

/-- What the handler of an error writes stands behind what was written before. -/
theorem tryCatch_error {handler : ServiceError → Action α} {result : Except ServiceError α}
    (h : Leaves action (.error e) s s' xs ls) (hhandler : Leaves (handler e) result s' s'' ys ks) :
    Leaves (MonadExcept.tryCatch action handler) result s s'' (xs ++ ys) (ls ++ ks) := by
  intro delivered errors
  have hrest := hhandler (delivered ++ xs) (errors ++ ls)
  rw [List.append_assoc, List.append_assoc] at hrest
  rw [ExceptT.run_tryCatch, StateT.run_bind, h]
  exact hrest

theorem congr {result : Except ServiceError α} (h : Leaves action result s s' xs ls) (hbytes : xs = ys)
    (hlines : ls = ks) : Leaves action result s s' ys ks :=
  hbytes ▸ hlines ▸ h

end Leaves

end Outputs

open Outputs (Action Leaves)

namespace Host

/-- The host with this disk, clock and input. -/
def simulated (disk : Disk) (clock : Clock) (input : Text.Bytes) : Host Action where
  read path := return disk path
  tick n := return clock n
  firstLine := return Command.firstLine input
  eachLine step start := (Text.byteLines input).foldlM step start
  report := Outputs.report
  deliver := Outputs.deliver

section Primitives

variable (disk : Disk) (clock : Clock) (input : Text.Bytes)

theorem simulated_look (other : Disk) (path : String) :
    (simulated disk clock input).look other path = pure (other.put path (disk path)) := rfl

theorem simulated_tick (n : Nat) : (simulated disk clock input).tick n = pure (clock n) := rfl

theorem simulated_firstLine : (simulated disk clock input).firstLine = pure (Command.firstLine input) := rfl

end Primitives

/-! ## The loop -/

section Loop

variable {disk : Disk} {clock : Clock} {input : Text.Bytes} {h : Handler} {line : Text.Bytes} {n : Nat}
  (least : Severity) {s s' : Sink} {handled : Handled} {e : ServiceError}

/-- A line finds on the disk as far as it has been read what it finds on the whole disk. -/
theorem handleLine_looked (h : Handler) (disk : Disk) (tick : Tick) (line : Text.Bytes) :
    h.handleLine (Disk.unread.put h.manifestPath (disk h.manifestPath)) tick line = h.handleLine disk tick line :=
  h.handleLine_congr (Disk.unread.put_self h.manifestPath _) tick line

theorem turn_of_skipped (hl : h.handleLine disk (clock n) line = none) :
    Leaves ((simulated disk clock input).turn least ⟨h, n⟩ line) (.ok ⟨h, n + 1⟩) s s [] [] := by
  simp only [turn, simulated_look, simulated_tick, pure_bind, handleLine_looked, hl]
  exact .pure _ s

theorem turn_of_taken (hl : h.handleLine disk (clock n) line = some handled)
    (hw : (s.writeLine handled.response.line).result = .ok s') :
    Leaves ((simulated disk clock input).turn least ⟨h, n⟩ line) (.ok ⟨handled.handler, n + 1⟩) s s'
      (s.writeLine handled.response.line).delivered (Journal.lines least handled.entries) := by
  simp only [turn, simulated_look, simulated_tick, pure_bind, handleLine_looked, hl]
  exact .congr (.bind (.report _ s) (.bind (.deliver_of_taken hw) (.pure _ s'))) (by simp) (by simp)

theorem turn_of_refused (hl : h.handleLine disk (clock n) line = some handled)
    (hw : (s.writeLine handled.response.line).result = .error e) :
    Leaves ((simulated disk clock input).turn least ⟨h, n⟩ line) (.error e) s s
      (s.writeLine handled.response.line).delivered (Journal.lines least handled.entries) := by
  simp only [turn, simulated_look, simulated_tick, pure_bind, handleLine_looked, hl]
  exact .congr (.bind (.report _ s) (.bind_error (.deliver_of_refused hw))) (by simp) (by simp)

/-- How a loop ends: with this value, unless it has failed. -/
def ended {α : Type} (failure : Option ServiceError) (a : α) : Except ServiceError α :=
  failure.elim (.ok a) .error

/-- The turns of lines leave what the library gives for them. -/
theorem foldlM_turn_leaves (least : Severity) (disk : Disk) (clock : Clock) (input : Text.Bytes) (h : Handler)
    (s : Sink) (n : Nat) (lines : List Text.Bytes) :
    let served := h.serveLines disk clock s n lines
    Leaves (lines.foldlM ((simulated disk clock input).turn least) ⟨h, n⟩)
      (ended served.failure ⟨served.handler, n + lines.length⟩) s served.sink served.delivered
      (Journal.lines least served.entries) := by
  induction lines generalizing h s n with
  | nil => exact .pure _ s
  | cons line rest ih =>
    rw [List.foldlM_cons, List.length_cons, Nat.add_comm rest.length, ← Nat.add_assoc, Handler.serveLines]
    cases hl : h.handleLine disk (clock n) line with
    | none => exact .bind (turn_of_skipped least hl) (ih h s (n + 1))
    | some handled =>
      cases hw : (s.writeLine handled.response.line).result with
      | error e =>
        simp only [hw]
        exact .bind_error (turn_of_refused least hl hw)
      | ok next =>
        simp only [hw]
        refine .congr (.bind (turn_of_taken least hl hw) (ih handled.handler next (n + 1))) rfl ?_
        rw [Journal.lines_append]

/-- **The loop on the simulated host leaves what the library says of it**, whatever the sink is. -/
theorem serve_leaves (least : Severity) (h : Handler) (disk : Disk) (clock : Clock) (s : Sink) (input : Text.Bytes) :
    let served := h.serve disk clock s input
    Leaves ((simulated disk clock input).serve least h) (ended served.failure ()) s served.sink served.delivered
      (Journal.lines least served.entries) := by
  have hbegin := Leaves.report (Journal.lines least [Handler.beginEntry (clock 0).time]) s
  have hturns := foldlM_turn_leaves least disk clock input h s 0 (Text.byteLines input)
  simp only [serve, simulated_tick, pure_bind, Handler.serve]
  dsimp only at hturns
  generalize h.serveLines disk clock s 0 (Text.byteLines input) = served at hturns ⊢
  obtain ⟨handler, after, delivered, entries, failure⟩ := served
  cases failure with
  | some e =>
    refine .congr (.bind hbegin (.bind_error hturns)) rfl ?_
    simp [← Journal.lines_append]
  | none =>
    refine .congr (.bind hbegin (.bind hturns (.report _ after))) (by simp) ?_
    simp [← Journal.lines_append]

end Loop

/-! ## Commands -/

section Commands

variable {disk : Disk} {clock : Clock} {input : Text.Bytes} {least : Severity} {h : Handler} {command : Command}
  {s s' : Sink} {bytes : Text.Bytes} {lines : List String}

/-- A boot finds on the disk as far as it has been read what it finds on the whole disk. -/
theorem exists_bootDisk (disk : Disk) (clock : Clock) (input : Text.Bytes) (path : String) :
    ∃ looked, (simulated disk clock input).bootDisk path = pure looked ∧
      ∀ now, boot looked now path = boot disk now path := by
  have hread : Disk.unread.put path (disk path) path = disk path := Disk.unread.put_self path _
  simp only [bootDisk, simulated_look, pure_bind, Config.load_congr hread]
  cases hload : Config.load disk path with
  | error e => exact ⟨_, rfl, boot_congr hread fun config h => by simp [hload] at h⟩
  | ok config =>
    refine ⟨_, rfl, boot_congr (Disk.put_of_read hread config.manifestPath) fun config' h => ?_⟩
    rw [← Except.ok.inj (hload.symm.trans h), Disk.put_self]

/-- The action answers one request as the library does, on a sink without end. -/
def Responds (action : Action Unit) (least : Severity) (handled : Handled) : Prop :=
  Leaves action (handled.response.map fun _ => ()) {} {} (handled.response.line ++ [10])
    (Journal.lines least handled.entries)

theorem respond_responds {answer : Disk → Tick → Handled} {handled : Handled}
    (hanswer : answer (Disk.unread.put h.manifestPath (disk h.manifestPath)) (clock 0) = handled) :
    Responds ((simulated disk clock input).respond least h answer) least handled := by
  have hreport := Leaves.report (Journal.lines least handled.entries) {}
  have hdeliver : Leaves (Outputs.deliver handled.response.line) (.ok ()) {} {} (handled.response.line ++ [10]) [] :=
    .deliver_of_taken rfl
  simp only [Responds, respond, simulated_look, simulated_tick, pure_bind, hanswer]
  obtain ⟨handler, response, entries⟩ := handled
  cases response with
  | ok reply => exact .congr (.bind hreport (.bind hdeliver (.pure () {}))) (by simp) (by simp)
  | error e => exact .congr (.bind hreport (.bind hdeliver (.throw e {}))) (by simp) (by simp)

theorem respond_request (request : Request) :
    Responds ((simulated disk clock input).respond least h fun disk tick => h.handle disk tick request) least
      (h.handle disk (clock 0) request) :=
  respond_responds (h.handle_congr (Disk.unread.put_self h.manifestPath _) (clock 0) request)

theorem execute_query (path : String) :
    Responds ((simulated disk clock input).execute least h (.query path none)) least
      (Command.handleFirst h disk (clock 0) input) := by
  have hfirst : Command.handleFirst h disk (clock 0) (Command.firstLine input) =
      Command.handleFirst h disk (clock 0) input := by
    rw [Command.handleFirst, Command.firstLine_firstLine]
    rfl
  simp only [execute, simulated_firstLine, pure_bind]
  refine respond_responds ?_
  rw [← hfirst]
  exact Command.handleFirst_congr (Disk.unread.put_self h.manifestPath _) (clock 0) _

/-- A boot that fails is told of, and then its error. -/
theorem run_of_failed {e : ServiceError} (hboot : (boot disk (clock 0).time command.config).result = .error e) :
    let booted := boot disk (clock 0).time command.config
    Leaves ((simulated disk clock input).run command) (.ok 1) s s []
      (Journal.lines booted.least booted.entries ++ [e.display ++ "\n"]) := by
  intro booted
  obtain ⟨looked, hlook, hlooked⟩ := exists_bootDisk disk clock input command.config
  simp only [run, hlook, simulated_tick, pure_bind, hlooked, hboot]
  refine .congr (.tryCatch_error (.bind (.report _ s) (.bind_error (.throw e s)))
    (.bind (.report _ s) (.pure 1 s))) ?_ ?_
  · rfl
  · simp [booted]

section Booted

variable {booted : Booted} (hboot : boot disk (clock 0).time command.config = booted) (hresult : booted.result = .ok h)

include hboot hresult

theorem run_of_executed
    (hexecute : Leaves ((simulated disk clock input).execute booted.least h command) (.ok ()) s s' bytes lines) :
    Leaves ((simulated disk clock input).run command) (.ok 0) s s' bytes
      (Journal.lines booted.least booted.entries ++ lines) := by
  obtain ⟨looked, hlook, hlooked⟩ := exists_bootDisk disk clock input command.config
  simp only [run, hlook, simulated_tick, pure_bind, hlooked, hboot, hresult]
  refine .tryCatch_ok (.congr (.bind (.report _ s) (.bind (.pure h s) (.bind hexecute (.pure 0 s')))) ?_ ?_)
  · simp
  · simp

theorem run_of_executed_error {e : ServiceError}
    (hexecute : Leaves ((simulated disk clock input).execute booted.least h command) (.error e) s s' bytes lines) :
    Leaves ((simulated disk clock input).run command) (.ok 1) s s' bytes
      (Journal.lines booted.least booted.entries ++ lines ++ [e.display ++ "\n"]) := by
  obtain ⟨looked, hlook, hlooked⟩ := exists_bootDisk disk clock input command.config
  simp only [run, hlook, simulated_tick, pure_bind, hlooked, hboot, hresult]
  refine .congr (.tryCatch_error (.bind (.report _ s) (.bind (.pure h s) (.bind_error hexecute)))
    (.bind (.report _ s') (.pure 1 s'))) ?_ ?_
  · simp
  · simp

/-- A command that writes one response is run as the library does it. -/
theorem run_of_responds {handled : Handled}
    (hexecute : Responds ((simulated disk clock input).execute booted.least h command) booted.least handled) :
    let ran := Command.responded booted.least (booted.entries ++ handled.entries) handled.response
    Leaves ((simulated disk clock input).run command) (.ok ran.exitCode) {} {} ran.output ran.errors := by
  obtain ⟨handler, response, entries⟩ := handled
  cases response with
  | ok reply =>
    refine .congr (run_of_executed hboot hresult hexecute) rfl ?_
    rw [← Journal.lines_append]
    rfl
  | error e =>
    refine .congr (run_of_executed_error hboot hresult hexecute) rfl ?_
    rw [← Journal.lines_append]
    rfl

end Booted

/-- **A command on the simulated host is run as the library says.** It ends with the same exit code, and leaves the same
bytes and the same lines. -/
theorem run_simulated (disk : Disk) (clock : Clock) (input : Text.Bytes) (command : Command) :
    let ran := command.run disk clock input
    Leaves ((simulated disk clock input).run command) (.ok ran.exitCode) {} {} ran.output ran.errors := by
  cases hresult : (boot disk (clock 0).time command.config).result with
  | error e =>
    simp only [Command.run, hresult]
    exact run_of_failed hresult
  | ok h =>
    cases command with
    | query path search? =>
      cases search? with
      | some search =>
        simp only [Command.run, hresult]
        exact run_of_responds rfl hresult (respond_request (.search search))
      | none =>
        simp only [Command.run, hresult]
        exact run_of_responds rfl hresult (execute_query path)
    | start path =>
      simp only [Command.run, hresult]
      -- a sink without end takes everything and stays as it is
      have hfailure := Handler.serve_failure disk h clock input
      have hserve := serve_leaves (boot disk (clock 0).time path).least h disk clock {} input
      dsimp only at hserve
      rw [hfailure, Handler.serve_sink] at hserve
      have hran : Leaves ((simulated disk clock input).run (.start path)) (.ok 0) {} {} _ _ :=
        run_of_executed rfl hresult hserve
      simp only [Command.config, hfailure]
      rw [Journal.lines_append]
      exact hran
    | headers path =>
      simp only [Command.run, hresult]
      exact run_of_responds rfl hresult (respond_request .headers)

end Commands

end Host

end ShipManifest

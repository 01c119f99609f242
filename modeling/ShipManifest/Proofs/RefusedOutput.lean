import ShipManifest.Proofs.Sinks

/-!
# How a refused output is reported

A sink refuses a response within its text, for want of room, or at its end, for want of room for the line feed or of a
flush. The loop then ends with an error, and the two are not reported alike.

* A sink takes responses one by one, each with the room and the flushes that the ones before it left
  (`Sink.takesAll_cons_iff`, `Sink.meets_cons_iff`).
* How it refuses one of them is told by the code of the error (`Sink.code_deliver`): a refusal at the end of a response
  is reported as one of the output, but a refusal within the text of a response has the code of a bad request
  (`Handler.text_refusal_blames_request`).

Main statement: the code of the error is told by where the sink refuses, and by nothing else
(`Handler.serve_blames_output_iff`).
-/

namespace ShipManifest

namespace Sink

/-! ## What a sink takes -/

/-- The flushes suffice for `n` responses. -/
def FlushesFor (s : Sink) (n : Nat) : Prop :=
  ∀ flushes, s.flushes = some flushes → n ≤ flushes

/-- The sink takes the response with its line feed and its flush. -/
def Takes (s : Sink) (response : Response) : Prop :=
  s.fits (response.line.length + 1) = true ∧ s.FlushesFor 1

/-- The sink takes all of the responses. -/
def TakesAll (s : Sink) (responses : List Response) : Prop :=
  s.fits (Response.lines responses).length = true ∧ s.FlushesFor responses.length

/-- The sink behind a response that it takes. -/
def behind (s : Sink) (response : Response) : Sink :=
  s.after (response.line.length + 1)

/-- The sink takes some of the responses, and what is left of it is in the condition `P` to the next one. -/
def Meets (P : Sink → Response → Prop) (s : Sink) (responses : List Response) : Prop :=
  ∃ before response further, responses = before ++ response :: further ∧ s.TakesAll before ∧
    P (before.foldl behind s) response

/-- The room ends within the text of one of the responses. -/
def RefusesText : Sink → List Response → Prop :=
  Meets fun s response => s.fits response.line.length = false

/-- There is room for the text of one of the responses, but not for its line feed, or its flush is refused. -/
def RefusesEnd : Sink → List Response → Prop :=
  Meets fun s response => s.fits response.line.length = true ∧ ¬ s.Takes response

variable {s : Sink} {response : Response} {responses : List Response}

theorem fits_mono {m n : Nat} (h : s.fits n = true) (hle : m ≤ n) : s.fits m = true := by
  unfold fits at h ⊢
  cases hroom : s.room with
  | none => rfl
  | some room =>
    simp only [hroom, decide_eq_true_eq] at h ⊢
    exact Nat.le_trans hle h

theorem fits_after {m : Nat} (h : s.fits m = true) (n : Nat) : (s.after m).fits n = s.fits (m + n) := by
  unfold fits at h ⊢
  cases hroom : s.room with
  | none => simp [after, hroom]
  | some room =>
    simp only [hroom, decide_eq_true_eq] at h
    simp only [after, hroom, Option.map_some, decide_eq_decide]
    omega

theorem flushesFor_one_iff : s.FlushesFor 1 ↔ s.flushes ≠ some 0 := by
  unfold FlushesFor
  cases s.flushes with
  | none => simp
  | some flushes => simp [Nat.one_le_iff_ne_zero]

theorem flushesFor_after (h : s.FlushesFor 1) (m n : Nat) : (s.after m).FlushesFor n ↔ s.FlushesFor (n + 1) := by
  unfold FlushesFor at h ⊢
  cases hflushes : s.flushes with
  | none => simp [after, hflushes]
  | some flushes =>
    have hone := h flushes hflushes
    simp only [after, hflushes, Option.map_some, Option.some.injEq, forall_eq']
    omega

theorem takesAll_nil : s.TakesAll [] := by
  refine ⟨?_, fun _ _ => Nat.zero_le _⟩
  unfold fits
  cases s.room <;> rfl

/-- Responses are taken one by one. -/
theorem takesAll_cons_iff :
    s.TakesAll (response :: responses) ↔ s.Takes response ∧ (s.behind response).TakesAll responses := by
  have hlength : (Response.lines (response :: responses)).length =
      response.line.length + 1 + (Response.lines responses).length := by
    rw [Response.lines, List.flatMap_cons, List.length_append, List.length_append, List.length_singleton]
    rfl
  rw [TakesAll, hlength, List.length_cons]
  constructor
  · rintro ⟨hfits, hflushes⟩
    have hone : s.FlushesFor 1 := fun n hn => Nat.le_trans (Nat.le_add_left 1 _) (hflushes n hn)
    have hfirst : s.fits (response.line.length + 1) = true := fits_mono hfits (Nat.le_add_right _ _)
    exact ⟨⟨hfirst, hone⟩, (fits_after hfirst _).trans hfits, (flushesFor_after hone _ _).mpr hflushes⟩
  · rintro ⟨⟨hfirst, hone⟩, hfits, hflushes⟩
    exact ⟨(fits_after hfirst _).symm.trans hfits, (flushesFor_after hone _ _).mp hflushes⟩

/-- A response is met at once, or behind the first one if that is taken. -/
theorem meets_cons_iff {P : Sink → Response → Prop} :
    s.Meets P (response :: responses) ↔ P s response ∨ s.Takes response ∧ (s.behind response).Meets P responses := by
  constructor
  · rintro ⟨before, met, further, hresponses, htakes, hmet⟩
    cases before with
    | nil =>
      obtain ⟨rfl, rfl⟩ := List.cons.inj hresponses
      exact .inl hmet
    | cons first before =>
      obtain ⟨rfl, rfl⟩ := List.cons.inj hresponses
      obtain ⟨hfirst, hbefore⟩ := takesAll_cons_iff.mp htakes
      exact .inr ⟨hfirst, before, met, further, rfl, hbefore, hmet⟩
  · rintro (hmet | ⟨hfirst, before, met, further, rfl, hbefore, hmet⟩)
    · exact ⟨[], response, responses, rfl, takesAll_nil, hmet⟩
    · exact ⟨response :: before, met, further, rfl, takesAll_cons_iff.mpr ⟨hfirst, hbefore⟩, hmet⟩

theorem not_meets_nil {P : Sink → Response → Prop} : ¬ s.Meets P [] := by
  rintro ⟨before, met, further, hresponses, -⟩
  exact List.append_ne_nil_of_right_ne_nil before (List.cons_ne_nil met further) hresponses.symm

/-! ## What is reported -/

theorem writeLine_of_takes (h : s.Takes response) :
    s.writeLine response.line = ⟨response.line ++ [10], .ok (s.behind response)⟩ := by
  have htext : s.fits response.line.length = true := fits_mono h.1 (Nat.le_succ _)
  simp [writeLine, htext, h.1, flushesFor_one_iff.mp h.2, behind]

/-- A refusal within the text is reported as one of the text. -/
theorem writeLine_of_refusesText (h : s.fits response.line.length = false) :
    (s.writeLine response.line).result = .error (.textUnwritten .full) := by
  simp [writeLine, h]

/-- A refusal of the line feed or of the flush is reported as one of the line. -/
theorem writeLine_of_refusesEnd (h : s.fits response.line.length = true) (hend : ¬ s.Takes response) :
    ∃ reason, (s.writeLine response.line).result = .error (.lineUnwritten reason) := by
  rw [Takes, flushesFor_one_iff] at hend
  cases hfits : s.fits (response.line.length + 1) with
  | false => exact ⟨.full, by simp [writeLine, h, hfits]⟩
  | true =>
    rw [hfits, eq_self, true_and, ne_eq, not_not] at hend
    exact ⟨.flush, by simp [writeLine, h, hfits, hend]⟩

/-- How responses are refused is told by the code of the error, which is one of two. -/
theorem code_deliver (s : Sink) (handled : List Handled) :
    let code := (s.deliver handled).failure.map (·.code)
    let responses := handled.map (·.response)
    (code = none ∨ code = some "MDB_CLI_IO_ERROR" ∨ code = some "MDB_CLI_BAD_REQUEST") ∧
      (code = none ↔ s.TakesAll responses) ∧ (code = some "MDB_CLI_IO_ERROR" ↔ s.RefusesEnd responses) ∧
      (code = some "MDB_CLI_BAD_REQUEST" ↔ s.RefusesText responses) := by
  induction handled generalizing s with
  | nil => simp [deliver, takesAll_nil, RefusesEnd, RefusesText, not_meets_nil]
  | cons x xs ih =>
    dsimp only
    rw [deliver, List.map_cons, takesAll_cons_iff, RefusesEnd, RefusesText, meets_cons_iff, meets_cons_iff]
    by_cases htakes : s.Takes x.response
    · have htext : s.fits x.response.line.length = true := fits_mono htakes.1 (Nat.le_succ _)
      simp only [writeLine_of_takes htakes, htakes, htext, true_and, not_true_eq_false, and_false, false_or,
        Bool.true_eq_false]
      exact ih (s.behind x.response)
    · cases htext : s.fits x.response.line.length with
      | false => simp [writeLine_of_refusesText htext, htakes, ServiceError.code]
      | true =>
        obtain ⟨reason, hwrite⟩ := writeLine_of_refusesEnd htext htakes
        simp [hwrite, htakes, ServiceError.code]

end Sink

/-! ## Runs -/

namespace Handler

/-- If the run failed, the error is one of the output. -/
def Served.BlamesOutput (served : Served) : Prop :=
  ∀ e, served.failure = some e → e.code = "MDB_CLI_IO_ERROR"

/-- **A refused output is reported as such unless it is refused within the text of a response.** The run fails exactly
if the sink does not take all responses. If it refuses one at its end, the code is that of the output; if it refuses one
within its text, the code is that of a bad request, though there is none. -/
theorem serve_blames_output_iff (h : Handler) (disk : Disk) (clock : Clock) (sink : Sink) (input : Text.Bytes) :
    let whole := h.serve disk clock {} input
    let served := h.serve disk clock sink input
    ∃ responses, Dialogue disk clock 0 h (Text.byteLines input) responses whole.handler ∧
      whole.delivered = Response.lines responses ∧
      (served.BlamesOutput ↔ ¬ sink.RefusesText responses) ∧
      (served.failure.map (·.code) = none ↔ sink.TakesAll responses) ∧
      (served.failure.map (·.code) = some "MDB_CLI_IO_ERROR" ↔ sink.RefusesEnd responses) ∧
      (served.failure.map (·.code) = some "MDB_CLI_BAD_REQUEST" ↔ sink.RefusesText responses) := by
  intro whole served
  let handled := h.exchanges disk clock 0 (Text.byteLines input)
  have hfailure : served.failure = (sink.deliver handled).failure :=
    congrArg Served.failure (h.serve_eq_deliver disk clock input sink)
  have hdialogue : Dialogue disk clock 0 h (Text.byteLines input) (handled.map (·.response)) whole.handler := by
    rw [serve_handler]
    exact dialogue_exchanges disk h clock 0 (Text.byteLines input)
  obtain ⟨hcodes, hnone, hend, htext⟩ := sink.code_deliver handled
  rw [← hfailure] at hcodes hnone hend htext
  refine ⟨_, hdialogue, serve_delivered disk h clock input, ?_, hnone, hend, htext⟩
  rw [← htext, Served.BlamesOutput]
  cases hf : served.failure with
  | none => simp
  | some e =>
    simp only [hf, Option.map_some, reduceCtorEq, Option.some.injEq, false_or, forall_eq'] at hcodes ⊢
    rcases hcodes with hcode | hcode <;> simp [hcode]

/-- There is room for the beginning of a response only, and the request is blamed, which was answered. -/
theorem text_refusal_blames_request :
    let h : Handler := ⟨.ofManifest (.parse ⟨0⟩ "A,B\n"), {}, "m.csv"⟩
    let clock : Clock := fun n => ⟨⟨n⟩, ""⟩
    let input := Text.encode "\x7b\"op\":\"headers\"\x7d\n"
    let served := h.serve (fun _ => .error .notFound) clock { room := some 5 } input
    served.failure = some (.textUnwritten .full) ∧ served.failure.map (·.code) = some "MDB_CLI_BAD_REQUEST" ∧
      served.entries.all (fun e => e.event != Journal.Event.requestRejected.name) = true ∧ ¬ served.BlamesOutput := by
  intro h clock input served
  have hfailure : served.failure = some (.textUnwritten .full) := by decide +kernel
  refine ⟨hfailure, by rw [hfailure]; rfl, by decide +kernel, fun hblames => ?_⟩
  exact absurd (hblames _ hfailure) (by decide)

end Handler

end ShipManifest

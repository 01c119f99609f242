import ShipManifest.Proofs.Deletion
import ShipManifest.Proofs.JournalEvents

/-!
# Sinks that refuse

* A sink with room for a number of bytes, whose flushes succeed, takes a line with its line feed if both fit, and
  otherwise as much as there is room for (`Sink.writeLine_of_fits`, `Sink.writeLine_of_full`). So it takes all responses
  if they fit (`Sink.deliver_of_fits`), and otherwise its room ends within one of them, which is the last one reached
  (`Sink.deliver_of_full`).
* The exchanges that are reached are those of a beginning of the input (`Handler.exists_begun`), because the first
  exchanges are those of the first lines (`Handler.exists_exchanges_take`).

Main statement: into a sink with room for `n` bytes, the loop delivers the first `n` of the bytes that it delivers into
a sink without end, and if there are more, it ends at the response that does not fit, as if the input ended behind the
line of this response, but without the entry of a regular end (`Handler.serve_until_full`).
-/

namespace ShipManifest

/-! ## Room -/

/-- The responses to what was handled, each ended with a line feed. -/
def Handled.lines (handled : List Handled) : Text.Bytes :=
  Response.lines (handled.map (·.response))

theorem Handled.lines_cons (x : Handled) (xs : List Handled) :
    lines (x :: xs) = x.response.line ++ [10] ++ lines xs := by
  rw [lines, List.map_cons, Response.lines, List.flatMap_cons]
  rfl

namespace Sink

open Handled (lines_cons)

variable {room : Nat}

theorem writeLine_of_fits {text : Text.Bytes} (h : (text ++ [10]).length ≤ room) :
    ({ room := some room } : Sink).writeLine text =
      ⟨text ++ [10], .ok { room := some (room - (text ++ [10]).length) }⟩ := by
  rw [List.length_append, List.length_singleton] at h
  have htext : text.length ≤ room := by omega
  simp [writeLine, fits, after, h, htext]

/-- What does not fit is delivered in part. -/
theorem writeLine_of_full {text : Text.Bytes} (h : room < (text ++ [10]).length) :
    ∃ e, ({ room := some room } : Sink).writeLine text = ⟨(text ++ [10]).take room, .error e⟩ := by
  rw [List.length_append, List.length_singleton] at h
  rcases Nat.lt_or_ge room text.length with hlt | hge
  · refine ⟨.textUnwritten .full, ?_⟩
    have htake : (text ++ [10]).take room = text.take room := List.take_append_of_le_length (by omega)
    simp [writeLine, fits, Nat.not_le.mpr hlt, htake]
  · -- only the line feed does not fit
    have hroom : room = text.length := by omega
    refine ⟨.lineUnwritten .full, ?_⟩
    simp [writeLine, fits, hroom]

/-- If all responses fit, all are delivered. -/
theorem deliver_of_fits {handled : List Handled} (h : (Handled.lines handled).length ≤ room) :
    ({ room := some room } : Sink).deliver handled =
      ⟨handled, { room := some (room - (Handled.lines handled).length) }, Handled.lines handled, none⟩ := by
  induction handled generalizing room with
  | nil => rfl
  | cons x xs ih =>
    rw [lines_cons, List.length_append] at h
    rw [deliver, writeLine_of_fits (by omega)]
    simp only
    rw [ih (by omega), lines_cons, Nat.sub_sub, ← List.length_append]

/-- Otherwise the room ends within one of the responses. Those before it are delivered, and none behind it is tried. -/
theorem deliver_of_full {handled : List Handled} (h : room < (Handled.lines handled).length) :
    ∃ k < handled.length, (Handled.lines (handled.take k)).length ≤ room ∧
      room < (Handled.lines (handled.take (k + 1))).length ∧
      ∃ sink e, ({ room := some room } : Sink).deliver handled =
        ⟨handled.take (k + 1), sink, (Handled.lines handled).take room, some e⟩ := by
  induction handled generalizing room with
  | nil => simp [Handled.lines, Response.lines] at h
  | cons x xs ih =>
    rcases Nat.lt_or_ge room (x.response.line ++ [10]).length with hfull | hfits
    · obtain ⟨e, hwrite⟩ := writeLine_of_full hfull
      refine ⟨0, Nat.succ_pos _, Nat.zero_le room, ?_, { room := some room }, e, ?_⟩
      · rw [List.take_succ_cons, lines_cons, List.length_append]
        omega
      · rw [deliver, hwrite, lines_cons, List.take_append_of_le_length (Nat.le_of_lt hfull)]
        rfl
    · rw [lines_cons, List.length_append] at h
      obtain ⟨k, hk, hbefore, hbehind, sink, e, hdeliver⟩ :=
        @ih (room - (x.response.line ++ [10]).length) (by omega)
      refine ⟨k + 1, Nat.succ_lt_succ hk, ?_, ?_, sink, e, ?_⟩
      · rw [List.take_succ_cons, lines_cons, List.length_append]
        omega
      · rw [List.take_succ_cons, lines_cons, List.length_append]
        omega
      · rw [deliver, writeLine_of_fits hfits]
        simp only
        rw [hdeliver, lines_cons, List.take_append, List.take_of_length_le hfits]
        rfl

theorem writeLine_of_taken {s next : Sink} {text : Text.Bytes} (h : (s.writeLine text).result = .ok next) :
    (s.writeLine text).delivered = text ++ [10] := by
  unfold writeLine at h ⊢
  split at h
  · cases h
  · split at h
    · cases h
    · split at h
      · cases h
      · simp [*]

/-- What a sink takes of a line is a beginning of it. -/
theorem writeLine_prefix (s : Sink) (text : Text.Bytes) : (s.writeLine text).delivered <+: text ++ [10] := by
  unfold writeLine
  split
  · exact (List.take_prefix _ _).trans (List.prefix_append text [10])
  · split
    · exact List.prefix_append text [10]
    · split <;> exact List.prefix_rfl

/-- What a sink takes of responses is a beginning of them. -/
theorem deliver_prefix (s : Sink) (handled : List Handled) :
    (s.deliver handled).delivered <+: Handled.lines handled := by
  induction handled generalizing s with
  | nil => exact List.prefix_rfl
  | cons x xs ih =>
    rw [deliver, lines_cons]
    cases hw : (s.writeLine x.response.line).result with
    | error e => exact (s.writeLine_prefix _).trans (List.prefix_append _ _)
    | ok next =>
      simp only [writeLine_of_taken hw]
      exact List.prefix_append_right_inj _ |>.mpr (ih next)

end Sink

/-! ## Beginnings of the input -/

namespace Text

theorem wholeLines_take {lines : List Bytes} (h : WholeLines lines) (m : Nat) : WholeLines (lines.take m) := by
  induction h generalizing m with
  | none => simpa using WholeLines.none
  | rest hline hne =>
    cases m with
    | zero => exact .none
    | succ m => simpa using WholeLines.rest hline hne
  | ended hline _ ih =>
    cases m with
    | zero => exact .none
    | succ m => exact .ended hline (ih m)

/-- The input up to the end of its `m`-th line. -/
def firstLines (m : Nat) (bytes : Bytes) : Bytes :=
  ((wholeLines bytes).take m).flatten

theorem firstLines_prefix (m : Nat) (bytes : Bytes) : firstLines m bytes <+: bytes := by
  refine ⟨((wholeLines bytes).drop m).flatten, ?_⟩
  rw [firstLines, ← List.flatten_append, List.take_append_drop, flatten_wholeLines]

theorem byteLines_firstLines (m : Nat) (bytes : Bytes) : byteLines (firstLines m bytes) = (byteLines bytes).take m := by
  have hwhole := wholeLines_whole bytes
  have hlines := byteLines_flatten hwhole
  rw [flatten_wholeLines] at hlines
  rw [firstLines, byteLines_flatten (wholeLines_take hwhole m), hlines, List.map_take]

end Text

namespace Handler

/-- The first exchanges are those of the first lines. -/
theorem exists_exchanges_take (h : Handler) (disk : Disk) (clock : Clock) (n k : Nat) (lines : List Text.Bytes) :
    ∃ m, h.exchanges disk clock n (lines.take m) = (h.exchanges disk clock n lines).take k := by
  induction lines generalizing h n k with
  | nil => exact ⟨0, by simp [exchanges]⟩
  | cons line rest ih =>
    cases k with
    | zero => exact ⟨0, by simp [exchanges]⟩
    | succ k =>
      cases hl : h.handleLine disk (clock n) line with
      | none =>
        obtain ⟨m, hm⟩ := ih h (n + 1) (k + 1)
        refine ⟨m + 1, ?_⟩
        rw [List.take_succ_cons, exchanges_of_skipped hl, exchanges_of_skipped hl, hm]
      | some handled =>
        obtain ⟨m, hm⟩ := ih handled.handler (n + 1) k
        refine ⟨m + 1, ?_⟩
        rw [List.take_succ_cons, exchanges_of_handled hl, exchanges_of_handled hl, List.take_succ_cons, hm]

/-- Each number of the exchanges is reached by a beginning of the input, with that many lines that are not blank. -/
theorem exists_begun (h : Handler) (disk : Disk) (clock : Clock) (input : Text.Bytes) {k : Nat}
    (hk : k ≤ (h.exchanges disk clock 0 (Text.byteLines input)).length) :
    ∃ begun, begun <+: input ∧ Text.byteLines begun <+: Text.byteLines input ∧
      (Text.byteLines begun).countP (!blankLine ·) = k ∧
      h.exchanges disk clock 0 (Text.byteLines begun) = (h.exchanges disk clock 0 (Text.byteLines input)).take k := by
  obtain ⟨m, hm⟩ := h.exists_exchanges_take disk clock 0 k (Text.byteLines input)
  have hlines : Text.byteLines (Text.firstLines m input) = (Text.byteLines input).take m :=
    Text.byteLines_firstLines m input
  rw [← hlines] at hm
  refine ⟨Text.firstLines m input, Text.firstLines_prefix m input, ?_, ?_, hm⟩
  · rw [hlines]
    exact List.take_prefix m _
  · have hcount := (dialogue_exchanges disk h clock 0 (Text.byteLines (Text.firstLines m input))).length_eq
    rw [hm, List.length_map, List.length_take, Nat.min_eq_left hk] at hcount
    exact hcount.symm

/-! ## Runs -/

variable (h : Handler) (disk : Disk) (clock : Clock) (input : Text.Bytes)

/-- The beginning is entered, and the end if no response was refused. -/
theorem serve_eq_deliver (sink : Sink) :
    let delivery := sink.deliver (h.exchanges disk clock 0 (Text.byteLines input))
    h.serve disk clock sink input = ⟨h.behind delivery.reached, delivery.sink, delivery.delivered,
      beginEntry (clock 0).time :: delivery.reached.flatMap (·.entries) ++
        (if delivery.failure.isNone then [endEntry (clock (Text.byteLines input).length).time] else []),
      delivery.failure⟩ := by
  simp [serve, serveLines_eq_deliver]

theorem serve_entries : (h.serve disk clock {} input).entries =
    beginEntry (clock 0).time :: (h.exchanges disk clock 0 (Text.byteLines input)).flatMap (·.entries) ++
      [endEntry (clock (Text.byteLines input).length).time] := by
  simp [serve, serveLines_endless]

/-- The entries of lines are no end of the loop. -/
theorem exchanges_events (n : Nat) (lines : List Text.Bytes) :
    Journal.OfEvents lineEvents ((h.exchanges disk clock n lines).flatMap (·.entries)) := by
  induction lines generalizing h n with
  | nil => simp [exchanges]
  | cons line rest ih =>
    cases hl : h.handleLine disk (clock n) line with
    | none =>
      rw [exchanges_of_skipped hl]
      exact ih h (n + 1)
    | some handled =>
      rw [exchanges_of_handled hl, List.flatMap_cons, Journal.OfEvents.append_iff]
      exact ⟨h.handleLine_events disk (clock n) hl, ih handled.handler (n + 1)⟩

/-- At other times, the loop delivers the same but for the load times that it tells. -/
theorem serve_alike (clock' : Clock) :
    AlikeButTimes (h.serve disk clock {} input).delivered (h.serve disk clock' {} input).delivered :=
  ⟨_, _, serve_delivered disk h clock input, serve_delivered disk h clock' input,
    responses_alike (exchanges_alike disk rfl clock clock' 0 0 (Text.byteLines input))⟩

/-- The run failed, and it left the handler and the entries of a run on `begun`, but for the entry of a regular end. -/
structure GivenUpBehind (served : Served) (h : Handler) (disk : Disk) (clock : Clock) (begun : Text.Bytes) : Prop where
  failed : served.failure ≠ none
  handler : served.handler = (h.serve disk clock {} begun).handler
  entries : (h.serve disk clock {} begun).entries =
    served.entries ++ [endEntry (clock (Text.byteLines begun).length).time]
  no_end : ∀ e ∈ served.entries, e.event ≠ Journal.Event.serveEnd.name

/-- A run is given up behind the lines whose exchanges were reached. -/
theorem givenUpBehind_of_reached {begun : Text.Bytes} {sink sink' : Sink} {part : Text.Bytes} {e : ServiceError}
    (hdeliver : sink.deliver (h.exchanges disk clock 0 (Text.byteLines input)) =
      ⟨h.exchanges disk clock 0 (Text.byteLines begun), sink', part, some e⟩) :
    GivenUpBehind (h.serve disk clock sink input) h disk clock begun := by
  have hserve := h.serve_eq_deliver disk clock input sink
  rw [hdeliver] at hserve
  simp only [Option.isNone_some, Bool.false_eq_true, ↓reduceIte, List.append_nil] at hserve
  refine ⟨?_, ?_, ?_, ?_⟩
  · simp [hserve]
  · rw [hserve, serve_handler]
  · rw [hserve, serve_entries]
  · have hlines : Journal.OfEvents (.serveBegin :: lineEvents)
        ((h.exchanges disk clock 0 (Text.byteLines begun)).flatMap (·.entries)) :=
      (h.exchanges_events disk clock 0 (Text.byteLines begun)).mono (List.subset_cons_self _ _)
    have hall : Journal.OfEvents (.serveBegin :: lineEvents) (h.serve disk clock sink input).entries := by
      rw [hserve]
      exact Journal.OfEvents.cons_iff.mpr ⟨⟨.serveBegin, List.mem_cons_self, rfl⟩, hlines⟩
    exact hall.event_ne (by decide)

/-- **A sink that gets full takes the beginning of what a sink without end takes.** With room for `n` bytes, the first
`n` bytes are delivered; the loop succeeds exactly if there are no more, and then nothing else differs. Otherwise the
room ends within one of the responses. The lines up to the one with this response have been handled, and no other: the
handler and the entries are those of a run on this beginning of the input, without the entry of a regular end. -/
theorem serve_until_full (h : Handler) (disk : Disk) (clock : Clock) (input : Text.Bytes) (n : Nat) :
    let whole := h.serve disk clock {} input
    let served := h.serve disk clock { room := some n } input
    served.delivered = whole.delivered.take n ∧
      (served.failure = none ↔ whole.delivered.length ≤ n) ∧
      (whole.delivered.length ≤ n → served.handler = whole.handler ∧ served.entries = whole.entries) ∧
      (n < whole.delivered.length → ∃ responses k begun,
        Dialogue disk clock 0 h (Text.byteLines input) responses whole.handler ∧
        whole.delivered = Response.lines responses ∧
        (Response.lines (responses.take k)).length ≤ n ∧ n < (Response.lines (responses.take (k + 1))).length ∧
        begun <+: input ∧ Text.byteLines begun <+: Text.byteLines input ∧
        (Text.byteLines begun).countP (!blankLine ·) = k + 1 ∧
        GivenUpBehind served h disk clock begun) ∧
      ∀ clock', AlikeButTimes whole.delivered (h.serve disk clock' {} input).delivered := by
  intro whole served
  let handled := h.exchanges disk clock 0 (Text.byteLines input)
  have hwhole : whole.delivered = Handled.lines handled := serve_delivered disk h clock input
  have hserved := h.serve_eq_deliver disk clock input { room := some n }
  have halike := h.serve_alike disk clock input
  rcases Nat.lt_or_ge n (Handled.lines handled).length with hfull | hfits
  · obtain ⟨k, hk, hbefore, hbehind, sink, e, hdeliver⟩ := Sink.deliver_of_full hfull
    rw [hdeliver] at hserved
    have hlt : n < whole.delivered.length := hwhole ▸ hfull
    obtain ⟨begun, hbegun, hlines, hcount, hreached⟩ := h.exists_begun disk clock input hk
    have hgiven : GivenUpBehind served h disk clock begun :=
      h.givenUpBehind_of_reached disk clock input (hdeliver.trans (by rw [hreached]))
    have hdialogue : Dialogue disk clock 0 h (Text.byteLines input) (handled.map (·.response)) whole.handler := by
      rw [serve_handler]
      exact dialogue_exchanges disk h clock 0 (Text.byteLines input)
    refine ⟨?_, iff_of_false hgiven.failed (Nat.not_le.mpr hlt), fun hle => absurd hlt (Nat.not_lt.mpr hle),
      fun _ => ?_, halike⟩
    · rw [hwhole]
      exact congrArg Served.delivered hserved
    · refine ⟨_, k, begun, hdialogue, hwhole, ?_, ?_, hbegun, hlines, hcount, hgiven⟩
      · rw [← List.map_take]
        exact hbefore
      · rw [← List.map_take]
        exact hbehind
  · rw [Sink.deliver_of_fits hfits] at hserved
    have hle : whole.delivered.length ≤ n := hwhole ▸ hfits
    refine ⟨?_, iff_of_true (congrArg Served.failure hserved) hle, fun _ => ⟨?_, ?_⟩,
      fun hlt => absurd hlt (Nat.not_lt.mpr hle), halike⟩
    · rw [List.take_of_length_le hle, hwhole]
      exact congrArg Served.delivered hserved
    · rw [serve_handler]
      exact congrArg Served.handler hserved
    · rw [serve_entries]
      exact congrArg Served.entries hserved

/-- Of three responses the second one does not fit. It is the one to a reload, which has been done. -/
theorem serve_until_full_within_reload :
    let h : Handler := ⟨.ofManifest (.empty ⟨0⟩), {}, "m.csv"⟩
    let disk : Disk := fun _ => .ok (Text.encode "Name\nA/ One")
    let clock : Clock := fun n => ⟨⟨n⟩, ""⟩
    let input := Text.encode
      "\x7b\"op\":\"headers\"\x7d\n \n\x7b\"op\":\"reload\"\x7d\r\n\x7b\"op\":\"info\"\x7d"
    let whole := h.serve disk clock {} input
    let served := h.serve disk clock { room := some 40 } input
    let roomy := h.serve disk clock { room := some 300 } input
    (Text.byteLines input).map blankLine = [false, true, false, false] ∧ 40 < whole.delivered.length ∧
      served.handler.store.edition = 1 ∧ served.delivered = whole.delivered.take 40 ∧
      (∃ begun, begun <+: input ∧ GivenUpBehind served h disk clock begun) ∧
      whole.delivered.length ≤ 300 ∧ roomy.entries = whole.entries := by
  intro h disk clock input whole served roomy
  have hlt : 40 < whole.delivered.length := by decide +kernel
  have hle : whole.delivered.length ≤ 300 := by decide +kernel
  obtain ⟨htake, -, -, hfull, -⟩ := serve_until_full h disk clock input 40
  obtain ⟨-, -, hfits, -, -⟩ := serve_until_full h disk clock input 300
  obtain ⟨_, _, begun, -, -, -, -, hbegun, -, -, hgiven⟩ := hfull hlt
  exact ⟨by decide +kernel, hlt, by decide +kernel, htake, ⟨begun, hbegun, hgiven⟩, hle, (hfits hle).2⟩

end Handler

end ShipManifest

import Mathlib.Data.List.ReduceOption
import ShipManifest.Proofs.JsonText
import ShipManifest.Proofs.Timeless
import ShipManifest.Service.Serve

/-!
# The request loop as a dialogue

* A line is blank or answered: `Answered` says what the answer is, and `Dialogue` follows the loop from line to line.
* The loop without its sink is `Handler.exchanges`, or line by line `Handler.turns`, and the exchanges are a dialogue
  (`Handler.dialogue_exchanges`). The loop delivers their responses by `Sink.deliver` until the sink refuses one
  (`Handler.serveLines_eq_deliver`). A sink without end takes a line for each exchange (`Handler.serveLines_endless`).
* Lines one behind the other are answered one behind the other (`Handler.exchanges_append`), and at other times the
  answers are alike (`Handler.exchanges_alike`).
* So the loop answers each line of its input that is not blank, and an input that goes on behind a line's end is
  answered as if it were served in two parts (`Handler.serve_answers_each_line`).
-/

namespace ShipManifest

/-! ## Lines and their answers -/

/-- A line that is text and white space only. -/
def blankLine (line : Text.Bytes) : Bool :=
  (Text.decode? line).any fun text => Text.isBlank text.toList

/-- How a handler answers a line. Only a request can change the handler. -/
inductive Answered (h : Handler) (disk : Disk) (tick : Tick) (line : Text.Bytes) : Handler → Response → Prop
  | notText : Text.decode? line = none → Answered h disk tick line h (.error .inputNotText)
  | notJson {text : String} {fault : Json.Fault} : Text.decode? line = some text → Json.parse text = .error fault →
      Answered h disk tick line h (.error (.invalidJson fault))
  | notRequest {text : String} {value : Json} {mismatch : Json.Mismatch} : Text.decode? line = some text →
      Json.parse text = .ok value → Request.ofJson value = .error mismatch →
      Answered h disk tick line h (.error (.invalidRequest mismatch))
  | request {text : String} {value : Json} {request : Request} : Text.decode? line = some text →
      Json.parse text = .ok value → Request.ofJson value = .ok request →
      Answered h disk tick line (h.handle disk tick request).handler (h.handle disk tick request).response

/-- The handler goes through the lines, the first of which has the number `n`, with these responses, and ends as the
handler at the end. -/
inductive Dialogue (disk : Disk) (clock : Clock) : Nat → Handler → List Text.Bytes → List Response → Handler → Prop
  | done {n : Nat} {h : Handler} : Dialogue disk clock n h [] [] h
  | skip {n : Nat} {h h' : Handler} {line : Text.Bytes} {rest : List Text.Bytes} {responses : List Response} :
      blankLine line = true → Dialogue disk clock (n + 1) h rest responses h' →
      Dialogue disk clock n h (line :: rest) responses h'
  | answer {n : Nat} {h h₁ h' : Handler} {line : Text.Bytes} {rest : List Text.Bytes} {response : Response}
      {responses : List Response} :
      blankLine line = false → Answered h disk (clock n) line h₁ response →
      Dialogue disk clock (n + 1) h₁ rest responses h' →
      Dialogue disk clock n h (line :: rest) (response :: responses) h'

/-- There are as many responses as lines that are not blank. -/
theorem Dialogue.length_eq {disk : Disk} {clock : Clock} {n : Nat} {h h' : Handler} {lines : List Text.Bytes}
    {responses : List Response} (d : Dialogue disk clock n h lines responses h') :
    responses.length = lines.countP (!blankLine ·) := by
  induction d with
  | done => rfl
  | skip hblank _ ih => rw [List.countP_cons_of_neg (by simp [hblank]), ih]
  | answer hblank _ _ ih => rw [List.countP_cons_of_pos (by simp [hblank]), List.length_cons, ih]

namespace Response

/-- Responses, each ended with a line feed. -/
def lines (responses : List Response) : Text.Bytes :=
  responses.flatMap fun response => response.line ++ [10]

theorem lines_append (xs ys : List Response) : lines (xs ++ ys) = lines xs ++ lines ys :=
  List.flatMap_append

/-- No response breaks its line. -/
theorem byteLines_lines (responses : List Response) : Text.byteLines (lines responses) = responses.map line := by
  have h := Json.byteLines_compact (responses.map toJson)
  rwa [List.flatMap_map, List.map_map] at h

end Response

/-! ## Delivering responses -/

/-- What came of delivering responses: the exchanges whose responses were tried, the sink, the bytes that it took, and
its error. -/
structure Delivery where
  reached : List Handled
  sink : Sink
  delivered : Text.Bytes
  failure : Option ServiceError

/-- Delivers the responses one after the other, up to the first one that is refused. -/
def Sink.deliver (sink : Sink) : List Handled → Delivery
  | [] => ⟨[], sink, [], none⟩
  | handled :: rest =>
    let written := sink.writeLine handled.response.line
    match written.result with
    | .error e => ⟨[handled], sink, written.delivered, some e⟩
    | .ok next =>
      let further := deliver next rest
      ⟨handled :: further.reached, further.sink, written.delivered ++ further.delivered, further.failure⟩

/-- A sink without end takes every response. -/
theorem Sink.deliver_endless (handled : List Handled) :
    ({} : Sink).deliver handled = ⟨handled, {}, Response.lines (handled.map (·.response)), none⟩ := by
  induction handled with
  | nil => rfl
  | cons x xs ih =>
    have hwrite : ({} : Sink).writeLine x.response.line = ⟨x.response.line ++ [10], .ok {}⟩ := rfl
    rw [deliver, hwrite]
    simp only
    rw [ih]
    rfl

namespace Handler

variable (disk : Disk)

/-! ## One line -/

section OneLine

variable {disk} {h : Handler} {tick : Tick} {line : Text.Bytes} {text : String}

theorem blankLine_of_notText (ht : Text.decode? line = none) : blankLine line = false := by
  rw [blankLine, ht, Option.any_none]

theorem blankLine_of_text (ht : Text.decode? line = some text) : blankLine line = Text.isBlank text.toList := by
  rw [blankLine, ht, Option.any_some]

theorem handleLine_of_blank (hb : blankLine line = true) : h.handleLine disk tick line = none := by
  cases ht : Text.decode? line with
  | none => simp [blankLine_of_notText ht] at hb
  | some text =>
    rw [blankLine_of_text ht] at hb
    simp [handleLine, Request.textOfLine, ht, hb]

/-- A text that is not blank is handled, and its rejection is entered behind what was entered before. -/
theorem handleLine_of_text (h : Handler) (disk : Disk) (tick : Tick) (ht : Text.decode? line = some text)
    (hb : Text.isBlank text.toList = false) :
    h.handleLine disk tick line = some { h.handleText disk tick text with
      entries := (h.handleText disk tick text).entries ++
        rejectedEntries tick.time (h.handleText disk tick text).response } := by
  simp [handleLine, Request.textOfLine, ht, hb]

/-- Every other line is answered. -/
theorem handleLine_of_not_blank (h : Handler) (disk : Disk) (tick : Tick) (hb : blankLine line = false) :
    ∃ handled, h.handleLine disk tick line = some handled ∧
      Answered h disk tick line handled.handler handled.response := by
  cases ht : Text.decode? line with
  | none =>
    refine ⟨⟨h, .error .inputNotText, [rejectedEntry tick.time .inputNotText]⟩, ?_, .notText ht⟩
    simp [handleLine, Request.textOfLine, ht, rejectedEntries]
  | some text =>
    rw [blankLine_of_text ht] at hb
    refine ⟨_, handleLine_of_text h disk tick ht hb, ?_⟩
    unfold handleText
    cases hp : Json.parse text with
    | error fault => exact .notJson ht hp
    | ok value =>
      dsimp only
      unfold handleJson
      cases hr : Request.ofJson value with
      | error mismatch => exact .notRequest ht hp hr
      | ok request => exact .request ht hp hr

end OneLine

/-! ## The loop without its sink -/

/-- What is handled on the way through lines, the first of which has the number `n`. -/
def exchanges (h : Handler) (disk : Disk) (clock : Clock) (n : Nat) : List Text.Bytes → List Handled
  | [] => []
  | line :: rest =>
    match h.handleLine disk (clock n) line with
    | none => exchanges h disk clock (n + 1) rest
    | some handled => handled :: exchanges handled.handler disk clock (n + 1) rest

section Step

variable {disk} {h : Handler} {clock : Clock} {n : Nat} {line : Text.Bytes} {rest : List Text.Bytes}

theorem exchanges_of_skipped (hl : h.handleLine disk (clock n) line = none) :
    h.exchanges disk clock n (line :: rest) = h.exchanges disk clock (n + 1) rest := by
  rw [exchanges, hl]

theorem exchanges_of_handled {handled : Handled} (hl : h.handleLine disk (clock n) line = some handled) :
    h.exchanges disk clock n (line :: rest) = handled :: handled.handler.exchanges disk clock (n + 1) rest := by
  rw [exchanges, hl]

end Step

variable (h : Handler) (clock : Clock) (n : Nat)

/-- The handler behind a line, which may have been skipped. -/
def after (h : Handler) (turn : Option Handled) : Handler :=
  (turn.map (·.handler)).getD h

/-- What is handled at each of the lines, the first of which has the number `n`. -/
def turns (h : Handler) (disk : Disk) (clock : Clock) (n : Nat) : List Text.Bytes → List (Option Handled)
  | [] => []
  | line :: rest =>
    let turn := h.handleLine disk (clock n) line
    turn :: turns (h.after turn) disk clock (n + 1) rest

/-- The exchanges are the turns at the lines that were not skipped. -/
theorem exchanges_eq_reduceOption (lines : List Text.Bytes) :
    h.exchanges disk clock n lines = (h.turns disk clock n lines).reduceOption := by
  induction lines generalizing h n with
  | nil => rfl
  | cons line rest ih =>
    cases hl : h.handleLine disk (clock n) line with
    | none =>
      rw [exchanges_of_skipped hl, turns, hl]
      exact ih h (n + 1)
    | some handled =>
      rw [exchanges_of_handled hl, turns, hl]
      exact congrArg (handled :: ·) (ih handled.handler (n + 1))

/-- The handler behind what was handled. -/
def behind (h : Handler) (handled : List Handled) : Handler :=
  handled.foldl (fun _ last => last.handler) h

theorem behind_append (xs ys : List Handled) : h.behind (xs ++ ys) = (h.behind xs).behind ys :=
  List.foldl_append

/-- The exchanges are a dialogue. -/
theorem dialogue_exchanges (lines : List Text.Bytes) :
    let handled := h.exchanges disk clock n lines
    Dialogue disk clock n h lines (handled.map (·.response)) (h.behind handled) := by
  induction lines generalizing h n with
  | nil => exact .done
  | cons line rest ih =>
    cases hb : blankLine line with
    | true =>
      rw [exchanges_of_skipped (handleLine_of_blank hb)]
      exact .skip hb (ih h (n + 1))
    | false =>
      obtain ⟨handled, hl, answered⟩ := handleLine_of_not_blank h disk (clock n) hb
      rw [exchanges_of_handled hl]
      exact .answer hb answered (ih handled.handler (n + 1))

/-- Lines one behind the other are answered one behind the other. -/
theorem exchanges_append (xs ys : List Text.Bytes) :
    let first := h.exchanges disk clock n xs
    h.exchanges disk clock n (xs ++ ys) = first ++ (h.behind first).exchanges disk clock (n + xs.length) ys := by
  induction xs generalizing h n with
  | nil => rfl
  | cons line rest ih =>
    have hlength : n + (line :: rest).length = n + 1 + rest.length := by
      rw [List.length_cons]
      omega
    rw [List.cons_append, hlength]
    cases hl : h.handleLine disk (clock n) line with
    | none =>
      rw [exchanges_of_skipped hl, exchanges_of_skipped hl]
      exact ih h (n + 1)
    | some handled =>
      rw [exchanges_of_handled hl, exchanges_of_handled hl, ih handled.handler (n + 1)]
      rfl

/-- The clock does not matter where the readings are the same. -/
theorem exchanges_congr {clock' : Clock} {n' : Nat} (hclock : ∀ i, clock (n + i) = clock' (n' + i))
    (lines : List Text.Bytes) : h.exchanges disk clock n lines = h.exchanges disk clock' n' lines := by
  induction lines generalizing h n n' with
  | nil => rfl
  | cons line rest ih =>
    have hrest : ∀ i, clock (n + 1 + i) = clock' (n' + 1 + i) := by
      intro i
      rw [Nat.add_assoc, Nat.add_assoc, hclock (1 + i)]
    have hnow : clock n = clock' n' := hclock 0
    cases hl : h.handleLine disk (clock n) line with
    | none =>
      rw [exchanges_of_skipped hl, exchanges_of_skipped (hnow ▸ hl)]
      exact ih h (n + 1) hrest
    | some handled =>
      rw [exchanges_of_handled hl, exchanges_of_handled (hnow ▸ hl), ih handled.handler (n + 1) hrest]

/-! ## Exchanges at other times -/

theorem handleJson_shown (tick tick' : Tick) (value : Json) :
    (h.handleJson disk tick value).shown = (h.timeless.handleJson disk tick' value).shown := by
  unfold handleJson
  cases Request.ofJson value with
  | ok request => exact handle_shown h disk tick tick' request
  | error mismatch => rfl

theorem handleText_shown (tick tick' : Tick) (text : String) :
    (h.handleText disk tick text).shown = (h.timeless.handleText disk tick' text).shown := by
  unfold handleText
  cases Json.parse text with
  | ok value => exact handleJson_shown disk h tick tick' value
  | error fault => rfl

/-- A line is answered the same at any time, up to load times. -/
theorem handleLine_shown (tick tick' : Tick) (line : Text.Bytes) :
    (h.handleLine disk tick line).map (·.shown) = (h.timeless.handleLine disk tick' line).map (·.shown) := by
  unfold handleLine
  cases Request.textOfLine line with
  | error e => rfl
  | ok text? =>
    cases text? with
    | none => rfl
    | some text => exact congrArg some (handleText_shown disk h tick tick' text)

/-- Handlers that differ in load times answer a line alike. -/
theorem handleLine_alike {h h' : Handler} (hh : h.timeless = h'.timeless) (tick tick' : Tick) (line : Text.Bytes) :
    (h.handleLine disk tick line).map (·.shown) = (h'.handleLine disk tick' line).map (·.shown) := by
  -- both do what the handler without load times does
  rw [handleLine_shown disk h tick tick, hh, ← handleLine_shown disk h' tick' tick]

theorem after_alike {h h' : Handler} (hh : h.timeless = h'.timeless) {turn turn' : Option Handled}
    (ht : turn.map (·.shown) = turn'.map (·.shown)) : (h.after turn).timeless = (h'.after turn').timeless := by
  cases turn with
  | none =>
    rw [Option.map_none, eq_comm, Option.map_eq_none_iff] at ht
    rw [ht]
    exact hh
  | some handled =>
    rw [Option.map_some, eq_comm, Option.map_eq_some_iff] at ht
    obtain ⟨handled', rfl, hshown⟩ := ht
    exact (congrArg Prod.fst hshown).symm

/-- Handlers that differ in load times take the same turns up to load times, whatever the clocks. -/
theorem turns_alike {h h' : Handler} (hh : h.timeless = h'.timeless) (clock clock' : Clock) (n n' : Nat)
    (lines : List Text.Bytes) :
    (h.turns disk clock n lines).map (·.map (·.shown)) = (h'.turns disk clock' n' lines).map (·.map (·.shown)) := by
  induction lines generalizing h h' n n' with
  | nil => rfl
  | cons line rest ih =>
    have hturn := handleLine_alike disk hh (clock n) (clock' n') line
    rw [turns, turns, List.map_cons, List.map_cons, hturn, ih (after_alike hh hturn)]

/-- Handlers that differ in load times give the same exchanges up to load times, whatever the clocks. -/
theorem exchanges_alike {h h' : Handler} (hh : h.timeless = h'.timeless) (clock clock' : Clock) (n n' : Nat)
    (lines : List Text.Bytes) :
    (h.exchanges disk clock n lines).map (·.shown) = (h'.exchanges disk clock' n' lines).map (·.shown) := by
  rw [exchanges_eq_reduceOption, exchanges_eq_reduceOption, ← List.reduceOption_map,
    turns_alike disk hh clock clock' n n' lines, List.reduceOption_map]

/-- Behind exchanges that are the same up to load times, the handlers are so, too. -/
theorem behind_alike {h h' : Handler} (hh : h.timeless = h'.timeless) : ∀ {handled handled' : List Handled},
    handled.map (·.shown) = handled'.map (·.shown) → (h.behind handled).timeless = (h'.behind handled').timeless
  | [], [], _ => hh
  | [], _ :: _, he => nomatch he
  | _ :: _, [], he => nomatch he
  | x :: xs, x' :: xs', he => by
    rw [List.map_cons, List.map_cons, List.cons.injEq] at he
    exact behind_alike (congrArg Prod.fst he.1) he.2

/-- Exchanges that are the same up to load times have responses that are so. -/
theorem responses_alike {handled handled' : List Handled} (he : handled.map (·.shown) = handled'.map (·.shown)) :
    (handled.map (·.response)).map Response.timeless = (handled'.map (·.response)).map Response.timeless := by
  have h := congrArg (List.map Prod.snd) he
  rwa [List.map_map, List.map_map] at h ⊢

/-! ## The loop -/

/-- The loop delivers what it handles, and it ends where the sink refuses a response. -/
theorem serveLines_eq_deliver (sink : Sink) (lines : List Text.Bytes) :
    let delivery := sink.deliver (h.exchanges disk clock n lines)
    h.serveLines disk clock sink n lines = ⟨h.behind delivery.reached, delivery.sink, delivery.delivered,
      delivery.reached.flatMap (·.entries), delivery.failure⟩ := by
  induction lines generalizing h sink n with
  | nil => rfl
  | cons line rest ih =>
    cases hl : h.handleLine disk (clock n) line with
    | none =>
      rw [serveLines, hl, exchanges_of_skipped hl]
      exact ih h (n + 1) sink
    | some handled =>
      rw [serveLines, hl, exchanges_of_handled hl, Sink.deliver]
      cases hw : (sink.writeLine handled.response.line).result with
      | error e =>
        simp only [hw]
        simp [behind]
      | ok next =>
        simp only [hw]
        rw [ih handled.handler (n + 1) next]
        rfl

/-- A sink without end takes a line for each exchange. -/
theorem serveLines_endless (lines : List Text.Bytes) :
    let handled := h.exchanges disk clock n lines
    h.serveLines disk clock {} n lines = ⟨h.behind handled, {}, Response.lines (handled.map (·.response)),
      handled.flatMap (·.entries), none⟩ := by
  intro handled
  rw [serveLines_eq_deliver, Sink.deliver_endless]

variable (input : Text.Bytes)

theorem serve_handler : (h.serve disk clock {} input).handler =
    h.behind (h.exchanges disk clock 0 (Text.byteLines input)) := by
  simp [serve, serveLines_endless]

theorem serve_delivered : (h.serve disk clock {} input).delivered =
    Response.lines ((h.exchanges disk clock 0 (Text.byteLines input)).map (·.response)) := by
  simp [serve, serveLines_endless]

theorem serve_sink : (h.serve disk clock {} input).sink = {} := by
  simp [serve, serveLines_endless]

/-- Only the sink ends the loop early. -/
theorem serve_failure : (h.serve disk clock {} input).failure = none := by
  simp [serve, serveLines_endless]

/-- Every line of an input that is not blank is answered on a line of its own. -/
theorem serve_dialogue :
    let served := h.serve disk clock {} input
    ∃ responses, Dialogue disk clock 0 h (Text.byteLines input) responses served.handler ∧
      served.failure = none ∧ served.delivered = Response.lines responses ∧
      Text.byteLines served.delivered = responses.map Response.line ∧
      responses.length = (Text.byteLines input).countP (!blankLine ·) := by
  intro served
  have hdelivered := serve_delivered disk h clock input
  have dialogue := dialogue_exchanges disk h clock 0 (Text.byteLines input)
  refine ⟨_, ?_, serve_failure disk h clock input, hdelivered, ?_, dialogue.length_eq⟩
  · rw [serve_handler]
    exact dialogue
  · rw [hdelivered, Response.byteLines_lines]

end Handler

/-- Outputs that differ at most in the load times that they tell. -/
def AlikeButTimes (x y : Text.Bytes) : Prop :=
  ∃ responses responses' : List Response, x = Response.lines responses ∧ y = Response.lines responses' ∧
    responses.map Response.timeless = responses'.map Response.timeless

namespace Handler

section TwoParts

variable (disk : Disk) (h : Handler) {a : Text.Bytes} (ha : Text.AtLineStart a) (b : Text.Bytes)

include ha

/-- An input that goes on behind a line's end can be served in two parts. -/
theorem serve_append (clock : Clock) :
    let whole := h.serve disk clock {} (a ++ b)
    let first := h.serve disk clock {} a
    let second := first.handler.serve disk (fun i => clock ((Text.byteLines a).length + i)) {} b
    whole.delivered = first.delivered ++ second.delivered ∧ whole.handler = second.handler := by
  intro whole first second
  have hclock : ∀ i, clock (0 + (Text.byteLines a).length + i) = clock ((Text.byteLines a).length + (0 + i)) := by
    intro i
    rw [Nat.zero_add, Nat.zero_add]
  have hsecond : first.handler.exchanges disk clock (0 + (Text.byteLines a).length) (Text.byteLines b) =
      first.handler.exchanges disk (fun i => clock ((Text.byteLines a).length + i)) 0 (Text.byteLines b) :=
    exchanges_congr disk first.handler clock _ hclock (Text.byteLines b)
  constructor
  · rw [serve_delivered, serve_delivered, serve_delivered, Text.byteLines_append ha, exchanges_append, ← serve_handler,
      hsecond, List.map_append, Response.lines_append]
  · rw [serve_handler, serve_handler, Text.byteLines_append ha, exchanges_append, ← serve_handler, hsecond,
      behind_append, ← serve_handler]

/-- The times of the two parts do not matter but for the load times that are told. -/
theorem serve_append_alike (clock clockA clockB : Clock) :
    let whole := h.serve disk clock {} (a ++ b)
    let first := h.serve disk clockA {} a
    let second := first.handler.serve disk clockB {} b
    AlikeButTimes whole.delivered (first.delivered ++ second.delivered) ∧
      whole.handler.timeless = second.handler.timeless := by
  intro whole first second
  -- the parts of the whole, and the same lines served in two runs
  let xs := h.exchanges disk clock 0 (Text.byteLines a)
  let ys := (h.behind xs).exchanges disk clock (0 + (Text.byteLines a).length) (Text.byteLines b)
  let xs' := h.exchanges disk clockA 0 (Text.byteLines a)
  let ys' := (h.behind xs').exchanges disk clockB 0 (Text.byteLines b)
  have hxs : xs.map (·.shown) = xs'.map (·.shown) := exchanges_alike disk rfl clock clockA 0 0 (Text.byteLines a)
  have hbehind : (h.behind xs).timeless = (h.behind xs').timeless := behind_alike rfl hxs
  have hys : ys.map (·.shown) = ys'.map (·.shown) := exchanges_alike disk hbehind clock clockB _ 0 (Text.byteLines b)
  have hall : (xs ++ ys).map (·.shown) = (xs' ++ ys').map (·.shown) := by
    rw [List.map_append, List.map_append, hxs, hys]
  constructor
  · refine ⟨(xs ++ ys).map (·.response), (xs' ++ ys').map (·.response), ?_, ?_, responses_alike hall⟩
    · rw [serve_delivered, Text.byteLines_append ha, exchanges_append]
    · rw [serve_delivered, serve_delivered, serve_handler, ← Response.lines_append, ← List.map_append]
  · rw [serve_handler, serve_handler, serve_handler, Text.byteLines_append ha, exchanges_append, ← behind_append]
    exact behind_alike rfl hall

end TwoParts

/-- **The loop answers each line of its input that is not blank, on a line of its own.** An input that goes on behind a
line's end is served as in two parts, with other times at most; and a last line needs no line feed. -/
theorem serve_answers_each_line (h : Handler) (disk : Disk) :
    (∀ clock input,
      let served := h.serve disk clock {} input
      ∃ responses, Dialogue disk clock 0 h (Text.byteLines input) responses served.handler ∧
        served.failure = none ∧ served.delivered = Response.lines responses ∧
        Text.byteLines served.delivered = responses.map Response.line ∧
        responses.length = (Text.byteLines input).countP (!blankLine ·)) ∧
    (∀ clock clockA clockB a b, Text.AtLineStart a →
      let whole := h.serve disk clock {} (a ++ b)
      let first := h.serve disk clockA {} a
      let second := first.handler.serve disk clockB {} b
      AlikeButTimes whole.delivered (first.delivered ++ second.delivered) ∧
        whole.handler.timeless = second.handler.timeless) ∧
    (∀ clock a b, Text.AtLineStart a →
      let whole := h.serve disk clock {} (a ++ b)
      let first := h.serve disk clock {} a
      let second := first.handler.serve disk (fun i => clock ((Text.byteLines a).length + i)) {} b
      whole.delivered = first.delivered ++ second.delivered ∧ whole.handler = second.handler) ∧
    ∀ a last, Text.AtLineStart a → last ≠ [] → 10 ∉ last →
      Text.byteLines (a ++ last) = Text.byteLines a ++ [last] ∧
        Text.byteLines (a ++ last ++ [10]) = Text.byteLines a ++ [Text.dropReturn 13 last] := by
  refine ⟨fun clock input => serve_dialogue disk h clock input, fun clock clockA clockB a b ha => ?_,
    fun clock a b ha => ?_, fun a last ha hne hlf => ⟨?_, ?_⟩⟩
  · exact serve_append_alike disk h ha b clock clockA clockB
  · exact serve_append disk h ha b clock
  · rw [Text.byteLines_append ha]
    exact congrArg (Text.byteLines a ++ ·) (Text.linesBy_rest hlf hne)
  · rw [List.append_assoc, Text.byteLines_append ha]
    exact congrArg (Text.byteLines a ++ ·) (Text.linesBy_cons hlf [])

/-- A reload, a blank line, and a last line that tells the load time. -/
theorem serve_answers_each_line_with_reload :
    let h : Handler := ⟨.ofManifest (.empty ⟨0⟩), {}, "m.csv"⟩
    let disk : Disk := fun _ => .ok (Text.encode "Name\nA/ One")
    let early : Clock := fun n => ⟨⟨n⟩, ""⟩
    let late : Clock := fun n => ⟨⟨1000000000 + n⟩, ""⟩
    let a := Text.encode "\x7b\"op\":\"reload\"\x7d\n \r\n"
    let b := Text.encode "\x7b\"op\":\"info\"\x7d"
    let whole := h.serve disk early {} (a ++ b)
    let first := h.serve disk late {} a
    let second := first.handler.serve disk late {} b
    Text.AtLineStart a ∧ (Text.byteLines (a ++ b)).map blankLine = [false, true, false] ∧
      whole.delivered ≠ first.delivered ++ second.delivered ∧
      AlikeButTimes whole.delivered (first.delivered ++ second.delivered) := by
  intro h disk early late a b whole first second
  have ha : Text.AtLineStart a := .inr (by decide +kernel)
  exact ⟨ha, by decide +kernel, by decide +kernel,
    ((serve_answers_each_line h disk).2.1 early late late a b ha).1⟩

end Handler

end ShipManifest

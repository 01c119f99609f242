import Mathlib.Data.Nat.Nth
import ShipManifest.Proofs.Dialogue
import ShipManifest.Proofs.Everyone

/-!
# Lines that may be deleted

* Deleting: an input is its lines with their line feeds (`Text.flatten_wholeLines`, `Text.wholeLines_whole`), and
  without some of them it has the lines that are left (`Text.byteLines_keepLines`).
* One line: a response that reports a swap is one to a reload that swapped (`Response.reportsSwap_iff`), and a line with
  any other response leaves the handler as it was (`Handler.after_of_idle`).
* All lines: without lines that leave the handler as it was, the turns at the others are the same
  (`Handler.turns_kept`), up to load times whatever the clock is (`Handler.turns_kept_alike`).
* So any lines whose responses report no swap may be deleted from an input (`Handler.serve_without_idle_lines`).
-/

namespace ShipManifest

/-! ## Deleting lines -/

/-- The members whose number is to be kept, where the first one has the number `n`. -/
def kept {α : Type} (keep : Nat → Bool) (n : Nat) : List α → List α
  | [] => []
  | x :: xs => if keep n then x :: kept keep (n + 1) xs else kept keep (n + 1) xs

theorem kept_map {α β : Type} (f : α → β) (keep : Nat → Bool) (n : Nat) (xs : List α) :
    kept keep n (xs.map f) = (kept keep n xs).map f := by
  induction xs generalizing n with
  | nil => rfl
  | cons x xs ih =>
    rw [List.map_cons, kept, kept, ih (n + 1)]
    split <;> rfl

namespace Text

/-- The lines of an input with their line feeds. The last one may have none. -/
def wholeLines : Bytes → List Bytes
  | [] => []
  | b :: bs =>
    if b = 10 then [10] :: wholeLines bs
    else
      match wholeLines bs with
      | [] => [[b]]
      | line :: rest => (b :: line) :: rest

/-- The input without the lines whose number is not to be kept. -/
def keepLines (keep : Nat → Bool) (bytes : Bytes) : Bytes :=
  (kept keep 0 (wholeLines bytes)).flatten

/-- Lines with their line feeds, in order. Only the last one may have none, unless it is empty. -/
inductive WholeLines : List Bytes → Prop
  | none : WholeLines []
  | rest {line : Bytes} : 10 ∉ line → line ≠ [] → WholeLines [line]
  | ended {line : Bytes} {lines : List Bytes} : 10 ∉ line → WholeLines lines → WholeLines ((line ++ [10]) :: lines)

theorem flatten_wholeLines (bytes : Bytes) : (wholeLines bytes).flatten = bytes := by
  induction bytes with
  | nil => rfl
  | cons b bs ih =>
    rw [wholeLines]
    split
    · rename_i hb
      rw [List.flatten_cons, ih, hb]
      rfl
    · cases h : wholeLines bs with
      | nil =>
        rw [h] at ih
        rw [← ih]
        rfl
      | cons line rest =>
        rw [h] at ih
        rw [← ih]
        rfl

theorem wholeLines_extend {b : UInt8} {line : Bytes} {rest : List Bytes} (hb : b ≠ 10)
    (h : WholeLines (line :: rest)) : WholeLines ((b :: line) :: rest) := by
  cases h with
  | rest hline _ => exact .rest (by simp [hb.symm, hline]) (List.cons_ne_nil b line)
  | @ended line _ hline hrest =>
    have hmem : 10 ∉ b :: line := by simp [hb.symm, hline]
    exact .ended hmem hrest

theorem wholeLines_whole (bytes : Bytes) : WholeLines (wholeLines bytes) := by
  induction bytes with
  | nil => exact .none
  | cons b bs ih =>
    rw [wholeLines]
    split
    · exact .ended List.not_mem_nil ih
    · rename_i hb
      split
      · exact .rest (by simp [Ne.symm hb]) (List.cons_ne_nil b [])
      · rename_i line rest h
        exact wholeLines_extend hb (h ▸ ih)

theorem wholeLines_kept {lines : List Bytes} (h : WholeLines lines) (keep : Nat → Bool) (n : Nat) :
    WholeLines (kept keep n lines) := by
  induction h generalizing n with
  | none => exact .none
  | rest hline hne =>
    rw [kept]
    split
    · exact .rest hline hne
    · exact .none
  | ended hline _ ih =>
    rw [kept]
    split
    · exact .ended hline (ih (n + 1))
    · exact ih (n + 1)

/-- A line without its ending. -/
def content (line : Bytes) : Bytes :=
  if line.getLast? = some 10 then dropReturn 13 line.dropLast else line

theorem byteLines_flatten {lines : List Bytes} (h : WholeLines lines) :
    byteLines lines.flatten = lines.map content := by
  induction h with
  | none => rfl
  | @rest line hline hne =>
    have hlast : line.getLast? ≠ some 10 := fun h => hline (List.mem_of_getLast? h)
    rw [List.flatten_singleton, List.map_singleton, content, if_neg hlast]
    exact linesBy_rest hline hne
  | @ended line lines hline _ ih =>
    have hcontent : content (line ++ [10]) = dropReturn 13 line := by
      simp [content]
    rw [List.flatten_cons, List.append_assoc, List.map_cons, hcontent, ← ih]
    exact linesBy_cons hline lines.flatten

/-- What is left of an input has the lines that are left. -/
theorem byteLines_keepLines (keep : Nat → Bool) (bytes : Bytes) :
    byteLines (keepLines keep bytes) = kept keep 0 (byteLines bytes) := by
  have hwhole := wholeLines_whole bytes
  have hlines := byteLines_flatten hwhole
  rw [flatten_wholeLines] at hlines
  rw [keepLines, byteLines_flatten (wholeLines_kept hwhole keep 0), hlines, kept_map]

end Text

/-! ## Responses that report a swap -/

/-- The response is to a reload that really swapped: its data say `reloaded` and `true`. -/
def Response.ReportsSwap (response : Response) : Prop :=
  ∃ data, (toJson response).get? "data" = some data ∧ data.get? "reloaded" = some (.boolean true)

/-- No error and no other reply says so. -/
theorem Response.reportsSwap_iff {response : Response} :
    response.ReportsSwap ↔ ∃ n, response = .ok (.reloaded (.swapped n)) := by
  constructor
  · rintro ⟨data, hdata, hswap⟩
    cases response with
    | error e =>
      rw [toJson, Json.get?_settle] at hdata
      cases hdata
    | ok reply =>
      rw [Handler.get?_data, Option.some.injEq] at hdata
      subst hdata
      cases reply with
      | found input labels outcome =>
        rw [Handler.get?_found] at hswap
        cases hswap
      | headers labels =>
        rw [Reply.toJson, Json.get?_settle] at hswap
        cases hswap
      | info known =>
        rw [Handler.get?_info] at hswap
        cases hswap
      | reloaded outcome =>
        cases outcome with
        | unchanged =>
          rw [Reply.toJson, Json.get?_settle] at hswap
          cases hswap
        | swapped n => exact ⟨n, rfl⟩
  · rintro ⟨n, rfl⟩
    refine ⟨_, Handler.get?_data _, ?_⟩
    rw [Reply.toJson, Json.get?_settle]
    rfl

instance Response.decidableReportsSwap (response : Response) : Decidable response.ReportsSwap :=
  match response with
  | .ok (.reloaded (.swapped n)) => .isTrue (reportsSwap_iff.mpr ⟨n, rfl⟩)
  | .ok (.reloaded .unchanged) => .isFalse fun h => nomatch reportsSwap_iff.mp h
  | .ok (.found _ _ _) => .isFalse fun h => nomatch reportsSwap_iff.mp h
  | .ok (.headers _) => .isFalse fun h => nomatch reportsSwap_iff.mp h
  | .ok (.info _) => .isFalse fun h => nomatch reportsSwap_iff.mp h
  | .error _ => .isFalse fun h => nomatch reportsSwap_iff.mp h

namespace Handler

/-! ## One line -/

variable {h h₁ : Handler} {disk : Disk} {tick : Tick}

/-- Only a reload that swaps changes the handler. -/
theorem handle_of_idle {request : Request} (hidle : ¬ (h.handle disk tick request).response.ReportsSwap) :
    (h.handle disk tick request).handler = h := by
  cases request with
  | search query => rfl
  | all => rfl
  | name name => rfl
  | headers => rfl
  | info => rfl
  | reload =>
    rw [Response.reportsSwap_iff] at hidle
    rcases h.store.reload_cases disk tick.time h.manifestPath with ⟨_, _, _, he⟩ | ⟨_, _, _, he⟩ | ⟨_, _, _, he⟩ |
      ⟨_, _, _, _, he⟩ | ⟨_, text, _, _, _, he⟩
    · simp only [handle, he]
    · simp only [handle, he]
    · simp only [handle, he]
    · simp only [handle, he]
    · refine absurd ⟨(Manifest.ofFile tick.time h.manifestPath text).records.length, ?_⟩ hidle
      simp only [handle, he]
      rfl

/-- An error leaves the handler as it was. -/
theorem handleJson_of_error {value : Json} {e : ServiceError}
    (he : (h.handleJson disk tick value).response = .error e) : (h.handleJson disk tick value).handler = h := by
  unfold handleJson at he ⊢
  cases hr : Request.ofJson value with
  | error mismatch => rfl
  | ok request =>
    rw [hr] at he
    refine handle_of_idle fun hswap => ?_
    obtain ⟨n, hn⟩ := Response.reportsSwap_iff.mp hswap
    cases he.symm.trans hn

/-- A line whose response reports no swap leaves the handler as it was. -/
theorem eq_of_answered {line : Text.Bytes} {response : Response} (answered : Answered h disk tick line h₁ response)
    (hidle : ¬ response.ReportsSwap) : h₁ = h := by
  cases answered with
  | notText _ => rfl
  | notJson _ _ => rfl
  | notRequest _ _ _ => rfl
  | request _ _ _ => exact handle_of_idle hidle

/-- The line was skipped, or its response reports no swap. -/
def Idle (turn : Option Handled) : Prop :=
  ∀ handled ∈ turn, ¬ handled.response.ReportsSwap

theorem after_of_idle {line : Text.Bytes} (hidle : Idle (h.handleLine disk tick line)) :
    h.after (h.handleLine disk tick line) = h := by
  cases hb : blankLine line with
  | true =>
    rw [handleLine_of_blank hb]
    rfl
  | false =>
    obtain ⟨handled, hl, answered⟩ := handleLine_of_not_blank h disk tick hb
    have heq : handled.handler = h := eq_of_answered answered (hidle handled hl)
    rw [hl]
    exact heq

/-! ## All lines -/

theorem behind_cons (h : Handler) (turn : Option Handled) (rest : List (Option Handled)) :
    h.behind (turn :: rest).reduceOption = (h.after turn).behind rest.reduceOption := by
  cases turn <;> rfl

/-- Without lines at which nothing happens to the handler, the turns at the others are the same, if they come at the
same times. -/
theorem turns_kept {keep : Nat → Bool} {clock clock' : Clock}
    (hclock : ∀ i, keep i = true → clock' (Nat.count (keep ·) i) = clock i) (h : Handler) (disk : Disk) (n : Nat)
    (lines : List Text.Bytes)
    (hidle : ∀ turn ∈ kept (!keep ·) n (h.turns disk clock n lines), Idle turn) :
    let turns := h.turns disk clock n lines
    let turns' := h.turns disk clock' (Nat.count (keep ·) n) (kept keep n lines)
    turns' = kept keep n turns ∧ h.behind turns'.reduceOption = h.behind turns.reduceOption := by
  induction lines generalizing h n with
  | nil => exact ⟨rfl, rfl⟩
  | cons line rest ih =>
    let turn := h.handleLine disk (clock n) line
    cases hn : keep n with
    | true =>
      simp only [turns, kept, hn, Bool.not_true, Bool.false_eq_true, ↓reduceIte] at hidle
      obtain ⟨hturns, hbehind⟩ := ih (h.after turn) (n + 1) hidle
      have hcount : Nat.count (keep ·) (n + 1) = Nat.count (keep ·) n + 1 := by
        rw [Nat.count_succ, if_pos hn]
      rw [hcount] at hturns hbehind
      simp only [kept, hn, ↓reduceIte, turns, hclock n hn, List.cons.injEq, true_and]
      rw [behind_cons, behind_cons]
      exact ⟨hturns, hbehind⟩
    | false =>
      simp only [turns, kept, hn, Bool.not_false, ↓reduceIte, List.forall_mem_cons] at hidle
      obtain ⟨hturns, hbehind⟩ := ih (h.after turn) (n + 1) hidle.2
      have hcount : Nat.count (keep ·) (n + 1) = Nat.count (keep ·) n := by
        rw [Nat.count_succ, if_neg (by simp [hn]), Nat.add_zero]
      -- the line goes, and the lines behind it meet the handler that they would have met without it
      have hsame : h.after turn = h := after_of_idle hidle.1
      rw [hcount, hsame] at hturns hbehind
      simp only [kept, hn, Bool.false_eq_true, ↓reduceIte, turns]
      rw [behind_cons, hsame]
      exact ⟨hturns, hbehind⟩

/-- At other times the turns and the handler at the end are the same up to load times. -/
theorem turns_kept_alike {keep : Nat → Bool} (clock clock' : Clock) (h : Handler) (disk : Disk)
    (lines : List Text.Bytes)
    (hidle : ∀ turn ∈ kept (!keep ·) 0 (h.turns disk clock 0 lines), Idle turn) :
    let turns := h.turns disk clock 0 lines
    let turns' := h.turns disk clock' 0 (kept keep 0 lines)
    turns'.map (·.map (·.shown)) = kept keep 0 (turns.map (·.map (·.shown))) ∧
      (h.behind turns'.reduceOption).timeless = (h.behind turns.reduceOption).timeless := by
  intro turns turns'
  -- the lines that are left, at the times that they had among the others
  let same : Clock := fun j => clock (Nat.nth (keep ·) j)
  have hsame : ∀ i, keep i = true → same (Nat.count (keep ·) i) = clock i :=
    fun i hi => congrArg clock (Nat.nth_count hi)
  obtain ⟨hturns, hbehind⟩ := turns_kept hsame h disk 0 lines hidle
  rw [Nat.count_zero] at hturns hbehind
  have halike : turns'.map (·.map (·.shown)) = (h.turns disk same 0 (kept keep 0 lines)).map (·.map (·.shown)) :=
    turns_alike disk rfl clock' same 0 0 (kept keep 0 lines)
  constructor
  · rw [halike, hturns, kept_map]
  · rw [← hbehind]
    refine behind_alike rfl ?_
    rw [← List.reduceOption_map, halike, List.reduceOption_map]

/-- **Only lines whose response reports a swap matter to the rest.** Any others may be deleted from an input: each of
the lines that are left gets the response that it got, and the store at the end is the same, up to times; and if the
lines that are left come at the times that they had, journal entries and load times are the same, too. A request that
gets an error never changes the store. -/
theorem serve_without_idle_lines (h : Handler) (disk : Disk) :
    (∀ clock clock' input keep,
      let served := h.serve disk clock {} input
      let turns := h.turns disk clock 0 (Text.byteLines input)
      let input' := Text.keepLines keep input
      let served' := h.serve disk clock' {} input'
      let turns' := h.turns disk clock' 0 (Text.byteLines input')
      (∀ turn ∈ kept (!keep ·) 0 turns, ∀ handled ∈ turn, ¬ handled.response.ReportsSwap) →
        Text.byteLines input' = kept keep 0 (Text.byteLines input) ∧
        served.delivered = Response.lines (turns.reduceOption.map (·.response)) ∧
        served'.delivered = Response.lines (turns'.reduceOption.map (·.response)) ∧
        turns'.map (·.map (·.response.timeless)) = kept keep 0 (turns.map (·.map (·.response.timeless))) ∧
        served'.handler.timeless = served.handler.timeless ∧
        ((∀ i, keep i = true → clock' (Nat.count (keep ·) i) = clock i) →
          turns' = kept keep 0 turns ∧ served'.handler = served.handler)) ∧
    ∀ tick value e, (h.handleJson disk tick value).response = .error e →
      (h.handleJson disk tick value).handler = h := by
  constructor
  · intro clock clock' input keep served turns input' served' turns' hidle
    have hlines : Text.byteLines input' = kept keep 0 (Text.byteLines input) := Text.byteLines_keepLines keep input
    obtain ⟨hshown, hbehind⟩ := turns_kept_alike clock clock' h disk (Text.byteLines input) hidle
    rw [← hlines] at hshown hbehind
    refine ⟨hlines, ?_, ?_, ?_, ?_, fun hclock => ?_⟩
    · rw [serve_delivered, exchanges_eq_reduceOption]
    · rw [serve_delivered, exchanges_eq_reduceOption]
    · have hresponses := congrArg (List.map (Option.map Prod.snd)) hshown
      rw [← kept_map] at hresponses
      simp only [List.map_map, Function.comp_def, Option.map_map] at hresponses
      exact hresponses
    · rw [serve_handler, serve_handler, exchanges_eq_reduceOption, exchanges_eq_reduceOption]
      exact hbehind
    · have hkept := turns_kept hclock h disk 0 (Text.byteLines input) hidle
      rw [Nat.count_zero, ← hlines] at hkept
      rw [serve_handler, serve_handler, exchanges_eq_reduceOption, exchanges_eq_reduceOption]
      exact hkept
  · exact fun tick value e => handleJson_of_error

/-- Of seven lines only a reload that swaps and a last line are left. What goes is a reply, a reload without a change, a
line that is no JSON, one that is no text, and a blank one. -/
theorem serve_without_idle_lines_around_swap :
    let h : Handler := ⟨.ofManifest (.empty ⟨0⟩), {}, "m.csv"⟩
    let disk : Disk := fun _ => .ok (Text.encode "Name\nA/ One")
    let early : Clock := fun n => ⟨⟨n⟩, ""⟩
    let late : Clock := fun n => ⟨⟨1000000000 + n⟩, ""⟩
    let reload := "\x7b\"op\":\"reload\"\x7d\n"
    let info := "\x7b\"op\":\"info\"\x7d"
    let input := Text.encode ("\x7b\"op\":\"headers\"\x7d\n" ++ reload ++ reload ++ "reload\r\n") ++ [0xff, 10] ++
      Text.encode (" \n" ++ info)
    let keep : Nat → Bool := fun i => i == 1 || i == 6
    let turns := h.turns disk early 0 (Text.byteLines input)
    let input' := Text.keepLines keep input
    let turns' := h.turns disk late 0 (Text.byteLines input')
    let served := h.serve disk early {} input
    let served' := h.serve disk late {} input'
    input' = Text.encode (reload ++ info) ∧
      turns.map (·.isSome) = [true, true, true, true, true, false, true] ∧ served.handler ≠ h ∧
      (∀ turn ∈ kept (!keep ·) 0 turns, ∀ handled ∈ turn, ¬ handled.response.ReportsSwap) ∧
      turns'.map (·.map (·.response.timeless)) = kept keep 0 (turns.map (·.map (·.response.timeless))) ∧
      served'.handler.timeless = served.handler.timeless ∧
      (h.handleJson disk (late 0) .null).handler = h := by
  intro h disk early late reload info input keep turns input' turns' served served'
  have hidle : ∀ turn ∈ kept (!keep ·) 0 turns, ∀ handled ∈ turn, ¬ handled.response.ReportsSwap := by
    decide +kernel
  obtain ⟨-, -, -, hturns, hhandler, -⟩ := (serve_without_idle_lines h disk).1 early late input keep hidle
  exact ⟨by decide +kernel, by decide +kernel, by decide +kernel, hidle, hturns, hhandler,
    (serve_without_idle_lines h disk).2 (late 0) .null _ rfl⟩

end Handler

end ShipManifest

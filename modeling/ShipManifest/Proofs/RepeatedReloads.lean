import ShipManifest.Proofs.Sinks

/-!
# Repeated reloads

* A reload that succeeds leaves a store that is up to date with the file (`Store.upToDate_of_reload`), and so does
  opening the file (`Store.upToDate_of_openAt`): the checksum of the text that was read is that of the bytes. As long as
  the file stays as it is, further reloads of an up-to-date store do nothing (`Store.reloads_of_upToDate`).
* A handler whose store is up to date with its file is at rest (`Handler.AtRest`). It reports no swap, and the first
  swap that is reported leaves it at rest. So a dialogue reports at most one swap (`Dialogue.swaps_le_one`), and none
  from a handler that is at rest (`Dialogue.swaps_eq_zero`).

Main statement: over files that do not change, reloads swap once at most (`Handler.reloads_swap_once`).
-/

namespace ShipManifest

/-! ## Reloads of a store -/

namespace Store

/-- Reloads of a path one behind the other, each of which meets a disk and a time of its own. -/
def reloads (s : Store) (path : String) : List (Disk × Instant) → List Reloaded
  | [] => []
  | (disk, now) :: rest =>
    let reloaded := s.reload disk now path
    reloaded :: reloads reloaded.store path rest

/-- A reload at which nothing happens. -/
def rested (s : Store) : Reloaded :=
  ⟨s, ⟨.ok .unchanged, []⟩⟩

/-- What was loaded from a file is up to date with it. The checksum is that of the text, and the bytes are its UTF-8
form. -/
theorem upToDate_ofFile {s : Store} {now : Instant} {path text : String} {bytes : Text.Bytes}
    (hcurrent : s.current = Manifest.ofFile now path text) (htext : Text.decode? bytes = some text) :
    s.UpToDate path bytes := by
  have hbytes : Text.encode text = bytes := Text.encode_of_decode? htext
  refine ⟨⟨path, ?_, rfl⟩, ?_⟩
  · rw [hcurrent]
    rfl
  · rw [hcurrent, ← hbytes]
    rfl

variable {s : Store} {disk : Disk} {now : Instant} {path : String} {bytes : Text.Bytes}

/-- A reload that succeeds leaves a store that is up to date, whether it swapped or not. -/
theorem upToDate_of_reload {outcome : ReloadOutcome} (ho : (s.reload disk now path).outcome.result = .ok outcome) :
    ∃ bytes, disk path = .ok bytes ∧ (s.reload disk now path).store.UpToDate path bytes := by
  rcases s.reload_cases disk now path with ⟨_, -, -, he⟩ | ⟨_, -, -, he⟩ | ⟨bytes, h, hup, he⟩ | ⟨_, -, -, -, he⟩ |
    ⟨bytes, text, h, -, ht, he⟩
  · simp [he] at ho
  · simp [he] at ho
  · exact ⟨bytes, h, he ▸ hup⟩
  · simp [he] at ho
  · refine ⟨bytes, h, ?_⟩
    rw [he]
    exact upToDate_ofFile rfl ht

/-- A store that was opened is up to date. -/
theorem upToDate_of_openAt (ho : (openAt disk now path).result = .ok s) :
    ∃ bytes, disk path = .ok bytes ∧ s.UpToDate path bytes := by
  obtain ⟨bytes, text, h, ht, rfl⟩ := openAt_eq_ok_iff.mp ho
  exact ⟨bytes, h, upToDate_ofFile rfl ht⟩

/-- **While the file stays as it is, nothing happens to a store that is up to date.** -/
theorem reloads_of_upToDate (hup : s.UpToDate path bytes) {moments : List (Disk × Instant)}
    (hsame : ∀ m ∈ moments, m.1 path = .ok bytes) :
    s.reloads path moments = List.replicate moments.length s.rested := by
  induction moments with
  | nil => rfl
  | cons m rest ih =>
    obtain ⟨hm, hrest⟩ := List.forall_mem_cons.mp hsame
    have hreload : s.reload m.1 m.2 path = s.rested := reload_of_upToDate hm hup
    rw [reloads, hreload, List.length_cons, List.replicate_succ]
    exact congrArg (s.rested :: ·) (ih hrest)

/-- Opening and reloading alike leave a store to which nothing happens while the file stays as it is. -/
theorem reloads_of_upToDate_of_same (hup : ∃ bytes, disk path = .ok bytes ∧ s.UpToDate path bytes)
    {moments : List (Disk × Instant)} (hsame : ∀ m ∈ moments, m.1 path = disk path) :
    s.reloads path moments = List.replicate moments.length s.rested := by
  obtain ⟨bytes, h, hup⟩ := hup
  exact reloads_of_upToDate hup fun m hm => (hsame m hm).trans h

end Store

/-! ## Reloads in a dialogue -/

/-- The handler's store is up to date with its file. -/
def Handler.AtRest (h : Handler) (disk : Disk) : Prop :=
  ∃ bytes, disk h.manifestPath = .ok bytes ∧ h.store.UpToDate h.manifestPath bytes

section Dialogues

variable {h h₁ : Handler} {disk : Disk} {tick : Tick}

/-- A handler that comes from a configuration is at rest. -/
theorem Handler.atRest_of_ofConfig {now : Instant} {config : Config}
    (ho : (Handler.ofConfig disk now config).result = .ok h) : h.AtRest disk := by
  cases hs : (Store.openAt disk now config.manifestPath).result with
  | error e => simp [Handler.ofConfig, hs] at ho
  | ok s =>
    simp only [Handler.ofConfig, hs, Except.ok.injEq] at ho
    subst ho
    exact Store.upToDate_of_openAt hs

/-- A reply that reports a swap is one to a reload that succeeded. -/
theorem Handler.reload_of_reportsSwap {request : Request} (hswap : (h.handle disk tick request).response.ReportsSwap) :
    request = .reload ∧ ∃ n, (h.store.reload disk tick.time h.manifestPath).outcome.result = .ok (.swapped n) := by
  obtain ⟨n, hn⟩ := Response.reportsSwap_iff.mp hswap
  cases request with
  | reload =>
    refine ⟨rfl, n, ?_⟩
    simp only [Handler.handle] at hn
    cases hr : (h.store.reload disk tick.time h.manifestPath).outcome.result with
    | error e => simp [hr, Except.map, Except.mapError] at hn
    | ok outcome => simpa [hr, Except.map, Except.mapError] using hn
  | search query => simp [Handler.handle, Handler.answer] at hn
  | all => simp [Handler.handle, Handler.answer] at hn
  | name name => simp [Handler.handle, Handler.answer] at hn
  | headers => simp [Handler.handle] at hn
  | info => simp [Handler.handle] at hn

/-- No error reports a swap. -/
theorem Response.not_reportsSwap_error (e : ServiceError) : ¬ ReportsSwap (.error e) := by
  intro hswap
  obtain ⟨n, hn⟩ := reportsSwap_iff.mp hswap
  cases hn

variable {line : Text.Bytes} {response : Response}

/-- A handler at rest reports no swap. -/
theorem Answered.not_reportsSwap (answered : Answered h disk tick line h₁ response) (hrest : h.AtRest disk) :
    ¬ response.ReportsSwap := by
  intro hswap
  cases answered with
  | notText _ => exact absurd hswap (Response.not_reportsSwap_error _)
  | notJson _ _ => exact absurd hswap (Response.not_reportsSwap_error _)
  | notRequest _ _ _ => exact absurd hswap (Response.not_reportsSwap_error _)
  | request _ _ _ =>
    obtain ⟨bytes, hbytes, hup⟩ := hrest
    obtain ⟨-, n, hn⟩ := Handler.reload_of_reportsSwap hswap
    rw [Store.reload_of_upToDate hbytes hup] at hn
    cases hn

/-- A reported swap leaves the handler at rest. -/
theorem Answered.atRest (answered : Answered h disk tick line h₁ response) (hswap : response.ReportsSwap) :
    h₁.AtRest disk := by
  cases answered with
  | notText _ => exact absurd hswap (Response.not_reportsSwap_error _)
  | notJson _ _ => exact absurd hswap (Response.not_reportsSwap_error _)
  | notRequest _ _ _ => exact absurd hswap (Response.not_reportsSwap_error _)
  | request _ _ _ =>
    obtain ⟨rfl, n, hn⟩ := Handler.reload_of_reportsSwap hswap
    exact Store.upToDate_of_reload hn

end Dialogues

namespace Dialogue

variable {disk : Disk} {clock : Clock} {n : Nat} {h h' : Handler} {lines : List Text.Bytes} {responses : List Response}

/-- From a handler at rest no swap is reported. -/
theorem swaps_eq_zero (d : Dialogue disk clock n h lines responses h') (hrest : h.AtRest disk) :
    responses.countP (·.ReportsSwap) = 0 := by
  induction d with
  | done => rfl
  | skip _ _ ih => exact ih hrest
  | answer _ answered _ ih =>
    have hidle := answered.not_reportsSwap hrest
    have hsame := Handler.eq_of_answered answered hidle
    rw [List.countP_cons_of_neg (by simpa using hidle)]
    exact ih (hsame ▸ hrest)

/-- At most one swap is reported. -/
theorem swaps_le_one (d : Dialogue disk clock n h lines responses h') : responses.countP (·.ReportsSwap) ≤ 1 := by
  induction d with
  | done => exact Nat.zero_le 1
  | skip _ _ ih => exact ih
  | @answer _ _ _ _ _ _ response _ _ answered rest ih =>
    by_cases hswap : response.ReportsSwap
    · -- the first swap, behind which the handler is at rest
      rw [List.countP_cons_of_pos (by simpa using hswap), rest.swaps_eq_zero (answered.atRest hswap)]
    · rw [List.countP_cons_of_neg (by simpa using hswap)]
      exact ih

end Dialogue

namespace Handler

/-- What a sink takes of a run is a beginning of the responses of a dialogue. -/
theorem serve_prefix (h : Handler) (disk : Disk) (clock : Clock) (sink : Sink) (input : Text.Bytes) :
    ∃ responses h', Dialogue disk clock 0 h (Text.byteLines input) responses h' ∧
      (h.serve disk clock sink input).delivered <+: Response.lines responses := by
  refine ⟨_, _, dialogue_exchanges disk h clock 0 (Text.byteLines input), ?_⟩
  rw [serve_eq_deliver]
  exact Sink.deliver_prefix sink _

/-- **Over files that do not change, reloads swap once at most.** Behind a reload that succeeded, and behind the opening
of the file, further reloads leave the very same snapshot and enter nothing. In a run of the loop at most one response
reports a swap, whatever the sink takes of it, and none does if the handler comes from a configuration. -/
theorem reloads_swap_once (disk : Disk) :
    (∀ s now path outcome moments, (Store.reload s disk now path).outcome.result = .ok outcome →
      (∀ m ∈ moments, m.1 path = disk path) →
        let s' := (Store.reload s disk now path).store
        s'.reloads path moments = List.replicate moments.length ⟨s', ⟨.ok .unchanged, []⟩⟩) ∧
    (∀ s now path moments, (Store.openAt disk now path).result = .ok s → (∀ m ∈ moments, m.1 path = disk path) →
      s.reloads path moments = List.replicate moments.length ⟨s, ⟨.ok .unchanged, []⟩⟩) ∧
    ∀ h clock sink input, ∃ responses h', Dialogue disk clock 0 h (Text.byteLines input) responses h' ∧
      (h.serve disk clock sink input).delivered <+: Response.lines responses ∧
      responses.countP (·.ReportsSwap) ≤ 1 ∧
      ∀ now config, (ofConfig disk now config).result = .ok h → responses.countP (·.ReportsSwap) = 0 := by
  refine ⟨fun s now path outcome moments ho hsame => ?_, fun s now path moments ho hsame => ?_,
    fun h clock sink input => ?_⟩
  · exact Store.reloads_of_upToDate_of_same (Store.upToDate_of_reload ho) hsame
  · exact Store.reloads_of_upToDate_of_same (Store.upToDate_of_openAt ho) hsame
  · obtain ⟨responses, h', dialogue, hprefix⟩ := h.serve_prefix disk clock sink input
    exact ⟨responses, h', dialogue, hprefix, dialogue.swaps_le_one,
      fun now config ho => dialogue.swaps_eq_zero (atRest_of_ofConfig ho)⟩

/-- A file with a mark, which is reloaded by another spelling of its path while other files get lost, and a run in which
three reloads are asked for. -/
theorem reloads_swap_once_with_mark :
    let text := "\ufeffName\r\nA/ One"
    let disk : Disk := fun _ => .ok (Text.encode text)
    let alone : Disk := fun path => if path = ".//m.csv" then .ok (Text.encode text) else .error .notFound
    let moments := [(disk, ⟨2⟩), (alone, ⟨3⟩), (alone, ⟨4⟩)]
    let s := Store.ofManifest (Manifest.ofFile ⟨0⟩ "./m.csv" text)
    let h : Handler := ⟨s, {}, "./m.csv"⟩
    let reload := "\x7b\"op\":\"reload\"\x7d\n"
    let input := Text.encode (reload ++ reload ++ " \n" ++ reload)
    (s.reload disk ⟨1⟩ ".//m.csv").outcome.result = .ok .unchanged ∧ (∀ m ∈ moments, m.1 ".//m.csv" = disk ".//m.csv") ∧
      (s.reload disk ⟨1⟩ ".//m.csv").store.reloads ".//m.csv" moments = List.replicate 3 ⟨s, ⟨.ok .unchanged, []⟩⟩ ∧
      (Store.openAt disk ⟨0⟩ "./m.csv").result = .ok s ∧
      s.reloads "./m.csv" [(disk, ⟨1⟩)] = [⟨s, ⟨.ok .unchanged, []⟩⟩] ∧
      (ofConfig disk ⟨0⟩ { manifestPath := "./m.csv" }).result = .ok h ∧
      ∃ responses h', Dialogue disk (fun n => ⟨⟨n⟩, ""⟩) 0 h (Text.byteLines input) responses h' ∧
        responses.length = 3 ∧ responses.countP (·.ReportsSwap) = 0 := by
  intro text disk alone moments s h reload input
  have htext : Text.decode? (Text.encode text) = some text := Text.decode?_encode text
  have hup : s.UpToDate ".//m.csv" (Text.encode text) := ⟨⟨"./m.csv", rfl, by decide⟩, rfl⟩
  have hreload : s.reload disk ⟨1⟩ ".//m.csv" = ⟨s, ⟨.ok .unchanged, []⟩⟩ := Store.reload_of_upToDate rfl hup
  have hsame : ∀ m ∈ moments, m.1 ".//m.csv" = disk ".//m.csv" := by simp [moments, disk, alone]
  have hopened : (Store.openAt disk ⟨0⟩ "./m.csv").result = .ok s := by
    rw [Store.openAt, Manifest.load_of_text rfl htext]
    rfl
  have hconfig : (ofConfig disk ⟨0⟩ { manifestPath := "./m.csv" }).result = .ok h := by
    simp only [ofConfig, hopened]
    rfl
  obtain ⟨hreloads, hopens, hruns⟩ := reloads_swap_once disk
  obtain ⟨responses, h', dialogue, -, -, hnone⟩ := hruns h (fun n => ⟨⟨n⟩, ""⟩) {} input
  have hcount : (Text.byteLines input).countP (!blankLine ·) = 3 := by decide +kernel
  have hrested := hreloads s ⟨1⟩ ".//m.csv" .unchanged moments (by rw [hreload]) hsame
  rw [hreload] at hrested ⊢
  exact ⟨rfl, hsame, hrested, hopened, hopens s ⟨0⟩ "./m.csv" [(disk, ⟨1⟩)] hopened (by simp), hconfig, responses, h',
    dialogue, dialogue.length_eq.trans hcount, hnone ⟨0⟩ _ hconfig⟩

end Handler

end ShipManifest

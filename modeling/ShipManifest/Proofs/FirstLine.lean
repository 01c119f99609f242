import ShipManifest.Proofs.ExitCodes
import ShipManifest.Proofs.TrailingBlanks

/-!
# The first line, with its ending and without

A query takes the first line of its input with the ending, the loop takes the line without it.

* The ending is a line feed, a carriage return and a line feed, or nothing (`Text.firstLine_eq`). Its characters are
  ASCII, so the line is text exactly if the line with its ending is (`Text.decode?_append_ending`), and they are white
  space and blanks of JSON, so neither a blank line nor the value of a line depends on them.
* So a handler answers the line alike in both cases (`Handler.handleFirst_agrees`): the status, the code and the data
  are the same, and only the words of an error can differ (`Response.Agree`).
* A boot succeeds or fails whatever the time is, and what is booted differs in load times at most (`boot_timeless`).
  The loop answers the first line first (`Command.run_start_first`).

Main statement: the response of a query agrees with the response that the loop gives to the first line
(`Command.query_agrees_with_start`).
-/

namespace ShipManifest

/-! ## The ending of a line -/

namespace Text

/-- A byte of ASCII at the end of a UTF-8 form is the last character, and what is before it is a UTF-8 form. -/
theorem exists_encode_of_append_byte {s : String} {bytes : Bytes} {b : UInt8} (hb : b.toNat < 0x80)
    (h : encode s = bytes ++ [b]) : ∃ t, encode t = bytes := by
  rw [encode_eq_flatMap] at h
  rcases List.eq_nil_or_concat s.toList with hs | ⟨cs, d, hs⟩
  · simp [hs] at h
  · rw [hs, List.concat_eq_append, List.flatMap_append, List.flatMap_singleton] at h
    refine ⟨String.ofList cs, ?_⟩
    rw [encode_eq_flatMap, String.toList_ofList]
    rcases Nat.lt_or_ge d.toNat 0x80 with hd | hd
    · rw [utf8EncodeChar_ascii hd] at h
      exact (List.append_inj' h rfl).1
    · -- the last byte would be one beyond ASCII
      obtain ⟨front, last, hlast⟩ : ∃ front last, String.utf8EncodeChar d = front ++ [last] := by
        rcases List.eq_nil_or_concat (String.utf8EncodeChar d) with hnil | ⟨front, last, hlast⟩
        · simp at hnil
        · exact ⟨front, last, hlast.trans List.concat_eq_append⟩
      rw [hlast, ← List.append_assoc] at h
      have hle := le_of_mem_utf8EncodeChar hd (hlast ▸ List.mem_append_right front List.mem_cons_self)
      have hsame : [last] = [b] := (List.append_inj' h rfl).2
      rw [List.singleton_inj.mp hsame] at hle
      omega

/-- A byte of ASCII at the end is a character of its own. -/
theorem decode?_append_byte (bytes : Bytes) {c : Char} (hc : c.toNat < 0x80) :
    decode? (bytes ++ [UInt8.ofNat c.toNat]) = (decode? bytes).map (· ++ String.ofList [c]) := by
  have hencode : encode (String.ofList [c]) = [UInt8.ofNat c.toNat] := by
    simp [encode_eq_flatMap, utf8EncodeChar_ascii hc]
  cases ht : decode? bytes with
  | some s =>
    have hs : encode (s ++ String.ofList [c]) = bytes ++ [UInt8.ofNat c.toNat] := by
      rw [encode_append, hencode, encode_of_decode? ht]
    rw [← hs, decode?_encode, Option.map_some]
  | none =>
    cases hwhole : decode? (bytes ++ [UInt8.ofNat c.toNat]) with
    | none => rfl
    | some s =>
      have hb : (UInt8.ofNat c.toNat).toNat < 0x80 := by
        rw [UInt8.toNat_ofNat']
        omega
      obtain ⟨t, rfl⟩ := exists_encode_of_append_byte hb (encode_of_decode? hwhole)
      rw [decode?_encode] at ht
      cases ht

/-- The endings of lines; the last line may have none. -/
def lineEndings : List String :=
  ["\n", "\r\n", ""]

theorem decode?_append_ending (bytes : Bytes) {ending : String} (he : ending ∈ lineEndings) :
    decode? (bytes ++ encode ending) = (decode? bytes).map (· ++ ending) := by
  have hlf : ∀ bytes : Bytes, decode? (bytes ++ [10]) = (decode? bytes).map (· ++ "\n") := fun bytes =>
    decode?_append_byte bytes (c := '\n') (by decide)
  have hcr : ∀ bytes : Bytes, decode? (bytes ++ [13]) = (decode? bytes).map (· ++ "\r") := fun bytes =>
    decode?_append_byte bytes (c := '\r') (by decide)
  simp only [lineEndings, List.mem_cons, List.not_mem_nil, or_false] at he
  rcases he with rfl | rfl | rfl
  · exact hlf bytes
  · have hsplit : bytes ++ encode "\r\n" = bytes ++ [13] ++ [10] := by
      rw [List.append_assoc]
      rfl
    rw [hsplit, hlf, hcr, Option.map_map]
    simp [Function.comp_def, String.append_assoc]
  · have hnone : encode "" = [] := rfl
    simp [hnone]

/-- The first line with its ending. -/
theorem firstLine_eq {input line : Bytes} {rest : List Bytes} (h : byteLines input = line :: rest) :
    ∃ ending ∈ lineEndings, Command.firstLine input = line ++ encode ending := by
  let head := input.takeWhile (· != 10)
  let tail := input.dropWhile (· != 10)
  have hhead : 10 ∉ head := fun hmem => by simpa using List.mem_takeWhile_imp hmem
  have hinput : head ++ tail = input := List.takeWhile_append_dropWhile
  have hfirst : Command.firstLine input = head ++ tail.take 1 := rfl
  rw [hfirst]
  rcases htail : tail with _ | ⟨x, xs⟩
  · -- the input is one line
    rw [htail, List.append_nil] at hinput
    have hne : input ≠ [] := by
      rintro rfl
      simp [byteLines] at h
    rw [byteLines, linesBy_rest (hinput ▸ hhead) hne, List.cons.injEq] at h
    refine ⟨"", by simp [lineEndings], ?_⟩
    rw [← h.1, ← hinput]
    rfl
  · have hx : x = 10 := by
      have hdrop := List.head?_dropWhile_not (· != 10) input
      rw [show input.dropWhile (· != 10) = x :: xs from htail] at hdrop
      simpa using hdrop
    subst hx
    rw [← hinput, htail, byteLines, linesBy_cons hhead, List.cons.injEq] at h
    rw [← h.1, dropReturn]
    split
    · rename_i hreturn
      obtain ⟨front, hfront⟩ := List.getLast?_eq_some_iff.mp (eq_of_beq hreturn)
      refine ⟨"\r\n", by simp [lineEndings], ?_⟩
      rw [hfront, List.dropLast_concat, List.append_assoc]
      rfl
    · exact ⟨"\n", by simp [lineEndings], rfl⟩

end Text

/-- The ending of a line does not change what the line is read as. -/
theorem Json.parse_append_ending (text : String) {ending : String} (he : ending ∈ Text.lineEndings) :
    (parse (text ++ ending)).toOption = (parse text).toOption := by
  have hblank : ∀ c ∈ ending.toList, Blank c := by
    simp only [Text.lineEndings, List.mem_cons, List.not_mem_nil, or_false] at he
    rcases he with rfl | rfl | rfl <;> simp [Blank]
  rw [← parse_append_blanks text hblank, String.ofList_toList]

/-! ## Responses that agree -/

namespace Response

/-- The data of a response, without the load time that it tells. -/
def timelessData (response : Response) : Option Json :=
  (toJson response.timeless).get? "data"

/-- Two responses agree if at most the words of their errors and the load times that they tell are different. -/
structure Agree (x y : Response) : Prop where
  status : x.told "status" = y.told "status"
  code : x.told "code" = y.told "code"
  data : x.timelessData = y.timelessData

theorem told_code_ok (reply : Reply) : told "code" (.ok reply) = none := by
  rw [told, toJson, Json.get?_settle]
  rfl

theorem timelessData_error (e : ServiceError) : timelessData (.error e) = none := by
  rw [timelessData, timeless, toJson, Json.get?_settle]
  · rfl
  · simp

/-- Errors of one code agree. -/
theorem agree_of_code {e e' : ServiceError} (h : e.code = e'.code) : Agree (.error e) (.error e') where
  status := by rw [told_error, told_error]; rfl
  code := by
    have hcode : ∀ e, told "code" (.error e) = some e.code := fun e => told_error e "code"
    rw [hcode, hcode, h]
  data := by rw [timelessData_error, timelessData_error]

/-- Responses that are the same up to load times agree. -/
theorem agree_of_timeless {x y : Response} (h : x.timeless = y.timeless) : Agree x y := by
  have hok : ∀ reply, ∃ reply', timeless (.ok reply) = .ok reply' := fun reply => by
    cases reply <;> exact ⟨_, rfl⟩
  have hdata : x.timelessData = y.timelessData := by rw [timelessData, timelessData, h]
  cases x with
  | ok reply =>
    cases y with
    | ok reply' =>
      exact ⟨by rw [told_status_ok, told_status_ok], by rw [told_code_ok, told_code_ok], hdata⟩
    | error e =>
      obtain ⟨_, htimeless⟩ := hok reply
      cases htimeless.symm.trans h
  | error e =>
    cases y with
    | ok reply =>
      obtain ⟨_, htimeless⟩ := hok reply
      cases h.trans htimeless
    | error e' =>
      cases (h : Except.error e = Except.error e')
      exact ⟨rfl, rfl, hdata⟩

theorem Agree.trans {x y z : Response} (hxy : Agree x y) (hyz : Agree y z) : Agree x z :=
  ⟨hxy.status.trans hyz.status, hxy.code.trans hyz.code, hxy.data.trans hyz.data⟩

end Response

/-! ## The first line -/

namespace Handler

variable (h : Handler) (disk : Disk) (tick : Tick)

/-- Texts that are read as the same value, or both as none, are answered alike. -/
theorem handleText_agrees {text text' : String} (hparse : (Json.parse text').toOption = (Json.parse text).toOption) :
    (h.handleText disk tick text').response.Agree (h.handleText disk tick text).response := by
  unfold handleText
  cases hp : Json.parse text with
  | ok value =>
    cases hp' : Json.parse text' with
    | ok value' =>
      rw [hp, hp'] at hparse
      cases Option.some.inj hparse
      exact Response.agree_of_timeless rfl
    | error fault' => rw [hp, hp'] at hparse; cases hparse
  | error fault =>
    cases hp' : Json.parse text' with
    | ok value' => rw [hp, hp'] at hparse; cases hparse
    | error fault' => exact Response.agree_of_code rfl

/-- A handler answers the first line with its ending as it answers the line alone. -/
theorem handleFirst_agrees {input line : Text.Bytes} {rest : List Text.Bytes}
    (hinput : Text.byteLines input = line :: rest) (hline : blankLine line = false) :
    ∃ handled, h.handleLine disk tick line = some handled ∧
      (Command.handleFirst h disk tick input).response.Agree handled.response := by
  obtain ⟨ending, he, hfirst⟩ := Text.firstLine_eq hinput
  have hdecode := Text.decode?_append_ending line he
  cases ht : Text.decode? line with
  | none =>
    rw [ht, Option.map_none, ← hfirst] at hdecode
    have hloop : h.handleLine disk tick line =
        some ⟨h, .error .inputNotText, [rejectedEntry tick.time .inputNotText]⟩ := by
      simp [handleLine, Request.textOfLine, ht, rejectedEntries]
    refine ⟨_, hloop, ?_⟩
    simp only [Command.handleFirst, Request.textOfLine, hdecode]
    exact Response.agree_of_timeless rfl
  | some text =>
    rw [ht, Option.map_some, ← hfirst] at hdecode
    rw [blankLine_of_text ht] at hline
    have hblank : Text.isBlank (text ++ ending).toList = false := by
      rw [String.toList_append, Text.isBlank, List.all_append, Bool.and_eq_false_iff]
      exact .inl hline
    refine ⟨_, handleLine_of_text h disk tick ht hline, ?_⟩
    simp only [Command.handleFirst, Request.textOfLine, hdecode, hblank]
    exact h.handleText_agrees disk tick (Json.parse_append_ending text he)

end Handler

/-! ## Boots -/

/-- Boots at different times load the same, up to load times. -/
theorem boot_timeless (disk : Disk) (now now' : Instant) (path : String) :
    (boot disk now path).result.map (·.timeless) = (boot disk now' path).result.map (·.timeless) := by
  unfold boot
  cases Config.load disk path with
  | error e => rfl
  | ok config =>
    simp only [Handler.ofConfig, Store.openAt]
    cases h : disk config.manifestPath with
    | error reason =>
      rw [Manifest.load_of_unreadable h, Manifest.load_of_unreadable h]
      rfl
    | ok bytes =>
      cases ht : Text.decode? bytes with
      | none =>
        rw [Manifest.load_of_notText h ht, Manifest.load_of_notText h ht]
        rfl
      | some text =>
        rw [Manifest.load_of_text h ht, Manifest.load_of_text h ht]
        rfl

/-- Where one boot succeeds, so does a boot at another time. -/
theorem exists_boot_alike {disk : Disk} {now : Instant} {path : String} {h : Handler}
    (hboot : (boot disk now path).result = .ok h) (now' : Instant) :
    ∃ h', (boot disk now' path).result = .ok h' ∧ h.timeless = h'.timeless := by
  have htimeless := boot_timeless disk now now' path
  rw [hboot] at htimeless
  cases hboot' : (boot disk now' path).result with
  | error e =>
    rw [hboot'] at htimeless
    cases htimeless
  | ok h' =>
    rw [hboot'] at htimeless
    exact ⟨h', rfl, Except.ok.inj htimeless⟩

/-! ## The query and the loop -/

namespace Command

/-- The loop answers the first line first, if it is not blank. -/
theorem run_start_first {disk : Disk} {clock : Clock} {path : String} {h : Handler} {input line : Text.Bytes}
    {rest : List Text.Bytes} {handled : Handled} (hboot : (boot disk (clock 0).time path).result = .ok h)
    (hinput : Text.byteLines input = line :: rest) (hloop : h.handleLine disk (clock 0) line = some handled) :
    ∃ further hend, Dialogue disk clock 0 h (line :: rest) (handled.response :: further) hend ∧
      ((start path).run disk clock input).output = Response.lines (handled.response :: further) := by
  have hexchanges : h.exchanges disk clock 0 (line :: rest) =
      handled :: handled.handler.exchanges disk clock 1 rest := Handler.exchanges_of_handled hloop
  have dialogue := Handler.dialogue_exchanges disk h clock 0 (line :: rest)
  rw [hexchanges] at dialogue
  refine ⟨_, _, dialogue, ?_⟩
  rw [(run_start hboot input).1, Handler.serve_delivered, hinput, hexchanges, List.map_cons]

/-- **A query answers the first line of its input as the loop does.** The loop answers this line first. Only the words
of an error and the load time in the data may be different, whatever the line is and however it ends. -/
theorem query_agrees_with_start (disk : Disk) (path : String) (clock clock' : Clock) (input line : Text.Bytes)
    (rest : List Text.Bytes) (hboot : ∃ h, (boot disk (clock 0).time path).result = .ok h)
    (hinput : Text.byteLines input = line :: rest) (hline : blankLine line = false) :
    ∃ (h' hend : Handler) (response first : Response) (further : List Response),
      ((query path none).run disk clock input).output = Response.lines [response] ∧
      (boot disk (clock' 0).time path).result = .ok h' ∧
      Dialogue disk clock' 0 h' (line :: rest) (first :: further) hend ∧
      ((start path).run disk clock' input).output = Response.lines (first :: further) ∧
      response.Agree first := by
  obtain ⟨h, hboot⟩ := hboot
  obtain ⟨h', hboot', halike⟩ := exists_boot_alike hboot (clock' 0).time
  obtain ⟨handled, hloop, hagrees⟩ := h.handleFirst_agrees disk (clock 0) hinput hline
  obtain ⟨handled', hloop', -⟩ := Handler.handleLine_of_not_blank h' disk (clock' 0) hline
  -- the two handlers differ in load times, and so do their responses to the line
  have hshown := Handler.handleLine_alike disk halike (clock 0) (clock' 0) line
  rw [hloop, hloop', Option.map_some, Option.map_some, Option.some.injEq] at hshown
  have hsame : handled.response.timeless = handled'.response.timeless := congrArg Prod.snd hshown
  obtain ⟨further, hend, dialogue, hstarted⟩ := run_start_first hboot' hinput hloop'
  exact ⟨h', hend, _, _, further, (run_query hboot).output_eq_lines, hboot', dialogue, hstarted,
    hagrees.trans (Response.agree_of_timeless hsame)⟩

/-- The first line breaks off within a text, and it ends with a carriage return and a line feed. -/
theorem query_agrees_with_start_within_text :
    let table := "Name\nA/ One"
    let disk : Disk := fun path =>
      .ok (Text.encode (if path = "c.json" then "\x7b\"manifest_path\":\"m.csv\"\x7d" else table))
    let clock : Clock := fun n => ⟨⟨n⟩, ""⟩
    let clock' : Clock := fun n => ⟨⟨1000000000 + n⟩, ""⟩
    let line := Text.encode "\x7b\"op\":\"in"
    let next := Text.encode "\x7b\"op\":\"info\"\x7d"
    let input := line ++ [13, 10] ++ next
    (∃ h, (boot disk ⟨0⟩ "c.json").result = .ok h) ∧ Text.byteLines input = [line, next] ∧ blankLine line = false ∧
      ∃ response first further,
        ((query "c.json" none).run disk clock input).output = Response.lines [response] ∧
        ((start "c.json").run disk clock' input).output = Response.lines (first :: further) ∧
        response.Agree first := by
  intro table disk clock clock' line next input
  have hconfig : Config.load disk "c.json" = .ok { manifestPath := "m.csv" } := by
    simp only [Config.load, disk, ↓reduceIte, Text.decode?_encode]
    decide +kernel
  have hboot : ∃ h, (boot disk ⟨0⟩ "c.json").result = .ok h := by
    rw [boot_result, hconfig, Except.bind, Manifest.load_of_text (by rfl) (Text.decode?_encode table)]
    exact ⟨_, rfl⟩
  have hinput : Text.byteLines input = [line, next] := by decide +kernel
  have hline : blankLine line = false := by decide +kernel
  obtain ⟨_, _, response, first, further, hasked, -, -, hstarted, hagrees⟩ :=
    query_agrees_with_start disk "c.json" clock clock' input line [next] hboot hinput hline
  exact ⟨hboot, hinput, hline, response, first, further, hasked, hstarted, hagrees⟩

end Command

end ShipManifest

import ShipManifest.Proofs.Deletion

/-!
# What an object asks for

An object is a request by the value of `op` and, for two operations, by that of one more key.

* An object asks for a request (`Request.AskedBy`) or for nothing (`Request.AsksNothing`), and this settles what is read
  from it (`Request.AskedBy.ofJson`, `Request.AsksNothing.ofJson`).
* Of the requests only a reload can fail, exactly if the manifest cannot be loaded where it has to be
  (`Handler.CannotLoad`, `Handler.handle_response`).

Main statement: these are all the ways in which an object is not answered, each with its code, and keys that have no
part in a request have no part in the answer (`Handler.handleJson_answers`).
-/

namespace ShipManifest

open Json (member?)

/-! ## Objects -/

/-- A text that is not the name of an operation is refused. -/
theorem Operation.ofJson_text_error {op : String} (h : ∀ operation : Operation, op ≠ operation.label) :
    ∃ mismatch, ofJson (.text op) = .error mismatch := by
  have hnames : ∀ entry ∈ variants, entry.1 = entry.2.label := by decide
  have hnone : variants.lookup op = none := by
    rw [List.lookup_eq_none_iff]
    intro entry hentry
    rw [hnames entry hentry, bne_iff_ne]
    exact h entry.2
  refine ⟨.unknownVariant op (variants.map (·.1)), ?_⟩
  simp only [ofJson, Json.variantOfName, hnone]

namespace Request

/-- The members ask for the request: they name its operation and have its argument. -/
inductive AskedBy (members : List (String × Json)) : Request → Prop
  | search {query : String} : member? "op" members = some (.text "search") →
      member? "query" members = some (.text query) → AskedBy members (.search query)
  | all : member? "op" members = some (.text "all") → AskedBy members .all
  | name {name : String} : member? "op" members = some (.text "name") →
      member? "name" members = some (.text name) → AskedBy members (.name name)
  | headers : member? "op" members = some (.text "headers") → AskedBy members .headers
  | info : member? "op" members = some (.text "info") → AskedBy members .info
  | reload : member? "op" members = some (.text "reload") → AskedBy members .reload

/-- The members ask for nothing: they name no operation, or the argument of their operation is missing or no text. -/
inductive AsksNothing (members : List (String × Json)) : Prop
  | operation : (∀ op ∈ ["search", "all", "name", "headers", "info", "reload"],
      member? "op" members ≠ some (.text op)) → AsksNothing members
  | query : member? "op" members = some (.text "search") →
      (∀ query, member? "query" members ≠ some (.text query)) → AsksNothing members
  | name : member? "op" members = some (.text "name") →
      (∀ name, member? "name" members ≠ some (.text name)) → AsksNothing members

variable {members : List (String × Json)}

/-- An object that names an operation is read as its request. -/
theorem ofJson_of_op (operation : Operation) (hop : member? "op" members = some (.text operation.label)) :
    ofJson (.object members) = ofMembers members operation := by
  have hread : Operation.ofJson (.text operation.label) = .ok operation := by cases operation <;> rfl
  simp only [ofJson, hop, hread]
  rfl

theorem keyArgument_of_text {key text : String} (h : member? key members = some (.text text)) :
    keyArgument key members = .ok text := by
  simp only [keyArgument, h]
  rfl

theorem keyArgument_error {key : String} (h : ∀ text, member? key members ≠ some (.text text)) :
    ∃ mismatch, keyArgument key members = .error mismatch := by
  unfold keyArgument
  cases hvalue : member? key members with
  | none => exact ⟨_, rfl⟩
  | some value =>
    cases value with
    | text text => exact absurd hvalue (h text)
    | _ => exact ⟨_, rfl⟩

/-- The request is read from the members that ask for it. -/
theorem AskedBy.ofJson {request : Request} (asked : AskedBy members request) :
    ofJson (.object members) = .ok request := by
  cases asked with
  | search hop hquery =>
    rw [ofJson_of_op .search hop, ofMembers, keyArgument_of_text hquery]
    rfl
  | name hop hname =>
    rw [ofJson_of_op .name hop, ofMembers, keyArgument_of_text hname]
    rfl
  | all hop => exact ofJson_of_op .all hop
  | headers hop => exact ofJson_of_op .headers hop
  | info hop => exact ofJson_of_op .info hop
  | reload hop => exact ofJson_of_op .reload hop

/-- Nothing is read from members that ask for nothing. -/
theorem AsksNothing.ofJson (nothing : AsksNothing members) :
    ∃ mismatch, ofJson (.object members) = .error mismatch := by
  cases nothing with
  | operation hnone =>
    cases hop : member? "op" members with
    | none =>
      simp only [Request.ofJson, hop]
      exact ⟨_, rfl⟩
    | some value =>
      simp only [Request.ofJson, hop]
      cases value with
      | text op =>
        have hne : ∀ operation : Operation, op ≠ operation.label := by
          rintro operation rfl
          exact hnone operation.label (by cases operation <;> decide) hop
        obtain ⟨mismatch, herror⟩ := Operation.ofJson_text_error hne
        rw [herror]
        exact ⟨mismatch, rfl⟩
      | _ => exact ⟨_, rfl⟩
  | query hop hnone =>
    obtain ⟨mismatch, herror⟩ := keyArgument_error hnone
    exact ⟨mismatch, by rw [ofJson_of_op .search hop, ofMembers, herror]; rfl⟩
  | name hop hnone =>
    obtain ⟨mismatch, herror⟩ := keyArgument_error hnone
    exact ⟨mismatch, by rw [ofJson_of_op .name hop, ofMembers, herror]; rfl⟩

/-- Every object asks for a request or for nothing. -/
theorem asked_or_nothing (members : List (String × Json)) :
    (∃ request, AskedBy members request) ∨ AsksNothing members := by
  by_cases hop : ∃ operation : Operation, member? "op" members = some (.text operation.label)
  · obtain ⟨operation, hop⟩ := hop
    cases operation with
    | search =>
      by_cases hquery : ∃ query, member? "query" members = some (.text query)
      · exact .inl ⟨_, .search hop hquery.choose_spec⟩
      · exact .inr (.query hop (not_exists.mp hquery))
    | name =>
      by_cases hname : ∃ name, member? "name" members = some (.text name)
      · exact .inl ⟨_, .name hop hname.choose_spec⟩
      · exact .inr (.name hop (not_exists.mp hname))
    | all => exact .inl ⟨_, .all hop⟩
    | headers => exact .inl ⟨_, .headers hop⟩
    | info => exact .inl ⟨_, .info hop⟩
    | reload => exact .inl ⟨_, .reload hop⟩
  · refine .inr (.operation fun op hmem heq => hop ?_)
    have hlabel : ∀ op ∈ ["search", "all", "name", "headers", "info", "reload"],
        ∃ operation : Operation, op = operation.label := by
      simp only [List.forall_mem_cons, List.not_mem_nil, false_imp_iff, implies_true, and_true]
      exact ⟨⟨.search, rfl⟩, ⟨.all, rfl⟩, ⟨.name, rfl⟩, ⟨.headers, rfl⟩, ⟨.info, rfl⟩, ⟨.reload, rfl⟩⟩
    obtain ⟨operation, rfl⟩ := hlabel op hmem
    exact ⟨operation, heq⟩

/-- No object asks for two requests. -/
theorem AskedBy.unique {request request' : Request} (asked : AskedBy members request)
    (asked' : AskedBy members request') : request = request' :=
  Except.ok.inj (asked.ofJson.symm.trans asked'.ofJson)

/-- None asks for a request and for nothing. -/
theorem AskedBy.not_nothing {request : Request} (asked : AskedBy members request) : ¬ AsksNothing members := by
  intro nothing
  obtain ⟨mismatch, herror⟩ := nothing.ofJson
  rw [asked.ofJson] at herror
  cases herror

end Request

/-! ## Answers -/

namespace Handler

open Request (AskedBy AsksNothing)

/-- The manifest of the handler cannot be read, or it has to be loaded and is no text. -/
def CannotLoad (h : Handler) (disk : Disk) : Prop :=
  (∃ reason, disk h.manifestPath = .error reason) ∨
    ∃ bytes, disk h.manifestPath = .ok bytes ∧ ¬ h.store.UpToDate h.manifestPath bytes ∧ Text.decode? bytes = none

variable {h : Handler} {disk : Disk} {tick : Tick}

/-- A request is answered, unless it is a reload of a manifest that cannot be loaded. -/
theorem handle_response (request : Request) :
    ((∃ reply, (h.handle disk tick request).response = .ok reply) ∧ ¬ (request = .reload ∧ h.CannotLoad disk)) ∨
      (∃ reason, (h.handle disk tick request).response = .error (.loadFailed reason)) ∧ request = .reload ∧
        h.CannotLoad disk := by
  cases request with
  | search query => exact .inl ⟨⟨_, rfl⟩, by simp⟩
  | all => exact .inl ⟨⟨_, rfl⟩, by simp⟩
  | name name => exact .inl ⟨⟨_, rfl⟩, by simp⟩
  | headers => exact .inl ⟨⟨_, rfl⟩, by simp⟩
  | info => exact .inl ⟨⟨_, rfl⟩, by simp⟩
  | reload =>
    have hfails : (∃ e, (h.store.reload disk tick.time h.manifestPath).outcome.result = .error e) ↔ h.CannotLoad disk :=
      (h.store.reload_faithful disk tick.time h.manifestPath).fails_iff
    cases hresult : (h.store.reload disk tick.time h.manifestPath).outcome.result with
    | ok outcome =>
      refine .inl ⟨⟨.reloaded outcome, ?_⟩, fun hcannot => ?_⟩
      · simp only [handle, hresult]
        rfl
      · obtain ⟨e, he⟩ := hfails.mpr hcannot.2
        cases hresult.symm.trans he
    | error e =>
      refine .inr ⟨⟨e, ?_⟩, rfl, hfails.mp ⟨e, hresult⟩⟩
      simp only [handle, hresult]
      rfl

/-- An object that asks for a request is answered as the request is. -/
theorem handleJson_of_asked {members : List (String × Json)} {request : Request} (asked : AskedBy members request) :
    h.handleJson disk tick (.object members) = h.handle disk tick request := by
  rw [handleJson, asked.ofJson]

/-- An object is refused because it asks for nothing, or its reload fails, or it is answered. -/
theorem handleJson_response (h : Handler) (disk : Disk) (tick : Tick) (members : List (String × Json)) :
    (AsksNothing members ∧
      ∃ mismatch, (h.handleJson disk tick (.object members)).response = .error (.invalidRequest mismatch)) ∨
    (AskedBy members .reload ∧ h.CannotLoad disk ∧
      ∃ reason, (h.handleJson disk tick (.object members)).response = .error (.loadFailed reason)) ∨
    (¬ AsksNothing members ∧ ¬ (AskedBy members .reload ∧ h.CannotLoad disk) ∧
      ∃ reply, (h.handleJson disk tick (.object members)).response = .ok reply) := by
  rcases Request.asked_or_nothing members with ⟨request, asked⟩ | nothing
  · rw [handleJson_of_asked asked]
    rcases handle_response request with ⟨hok, hloads⟩ | ⟨hfailed, rfl, hcannot⟩
    · refine .inr (.inr ⟨asked.not_nothing, ?_, hok⟩)
      rintro ⟨reload, hcannot⟩
      exact hloads ⟨asked.unique reload, hcannot⟩
    · exact .inr (.inl ⟨asked, hcannot, hfailed⟩)
  · obtain ⟨mismatch, herror⟩ := nothing.ofJson
    refine .inl ⟨nothing, mismatch, ?_⟩
    rw [handleJson, herror]

/-- **An object is refused exactly if it asks for nothing, and fails exactly if it asks for a reload that cannot load.**
Any other object is answered as the request that it asks for, whatever other members it has. An error leaves the handler
as it was. -/
theorem handleJson_answers (h : Handler) (disk : Disk) (tick : Tick) (members : List (String × Json)) :
    let handled := h.handleJson disk tick (.object members)
    ((∃ e, handled.response = .error e ∧ e.code = "MDB_CLI_BAD_REQUEST") ↔ AsksNothing members) ∧
    ((∃ e, handled.response = .error e ∧ e.code = "MDB_CLI_LOAD_FAILED") ↔
      AskedBy members .reload ∧ h.CannotLoad disk) ∧
    ((∃ reply, handled.response = .ok reply) ↔
      ¬ AsksNothing members ∧ ¬ (AskedBy members .reload ∧ h.CannotLoad disk)) ∧
    (∀ e, handled.response = .error e →
      (e.code = "MDB_CLI_BAD_REQUEST" ∨ e.code = "MDB_CLI_LOAD_FAILED") ∧ handled.handler = h) ∧
    (∀ request members', AskedBy members request → AskedBy members' request →
      h.handleJson disk tick (.object members') = handled) := by
  intro handled
  have hkept : ∀ e, handled.response = .error e → handled.handler = h := fun e he => handleJson_of_error he
  have hignored : ∀ request members', AskedBy members request → AskedBy members' request →
      h.handleJson disk tick (.object members') = handled := fun request members' asked asked' =>
    (handleJson_of_asked asked').trans (handleJson_of_asked asked).symm
  rcases handleJson_response h disk tick members with ⟨nothing, mismatch, hr⟩ |
    ⟨asked, hcannot, reason, hr⟩ | ⟨hasks, hloads, reply, hr⟩
  · have hreload : ¬ AskedBy members .reload := fun asked => asked.not_nothing nothing
    have hcode : (ServiceError.invalidRequest mismatch).code = "MDB_CLI_BAD_REQUEST" := rfl
    refine ⟨?_, ?_, ?_, fun e he => ⟨.inl ?_, hkept e he⟩, hignored⟩
    · simp [handled, hr, hcode, nothing]
    · simp [handled, hr, hcode, hreload]
    · simp [handled, hr, nothing]
    · rw [← Except.error.inj (hr.symm.trans he), hcode]
  · have hcode : (ServiceError.loadFailed reason).code = "MDB_CLI_LOAD_FAILED" := rfl
    refine ⟨?_, ?_, ?_, fun e he => ⟨.inr ?_, hkept e he⟩, hignored⟩
    · simp [handled, hr, hcode, asked.not_nothing]
    · simp [handled, hr, hcode, asked, hcannot]
    · simp [handled, hr, asked, hcannot]
    · rw [← Except.error.inj (hr.symm.trans he), hcode]
  · refine ⟨?_, ?_, ?_, fun e he => ?_, hignored⟩
    · simp [handled, hr, hasks]
    · simp [handled, hr, hloads]
    · simp [handled, hr, hasks, hloads]
    · cases hr.symm.trans he

/-- A search without a text, in an object with another member of a request; the same object with the text in front and
another member behind; and a reload whose manifest is lost. -/
theorem handleJson_answers_beside_members :
    let h : Handler := ⟨.ofManifest (Manifest.parse ⟨0⟩ "Name\nA/ One"), {}, "m.csv"⟩
    let disk : Disk := fun _ => .error .notFound
    let nameless := [("op", Json.text "search"), ("query", .integer 5), ("name", .text "One")]
    let asking := [("op", Json.text "search"), ("query", .text "surv")]
    let asking' := [("name", .integer 5), ("query", Json.text "surv"), ("op", .text "search"), ("reload", .null)]
    let reload := [("reload", Json.null), ("op", .text "reload")]
    let response (members : List (String × Json)) := (h.handleJson disk ⟨⟨1⟩, "id"⟩ (.object members)).response
    (AsksNothing nameless ∧ ∃ e, response nameless = .error e ∧ e.code = "MDB_CLI_BAD_REQUEST") ∧
    (AskedBy asking (.search "surv") ∧ AskedBy asking' (.search "surv") ∧
      h.handleJson disk ⟨⟨1⟩, "id"⟩ (.object asking') = h.handleJson disk ⟨⟨1⟩, "id"⟩ (.object asking)) ∧
    AskedBy reload .reload ∧ h.CannotLoad disk ∧
      ∃ e, response reload = .error e ∧ e.code = "MDB_CLI_LOAD_FAILED" := by
  intro h disk nameless asking asking' reload response
  have nothing : AsksNothing nameless := .query rfl (by rintro query ⟨⟩)
  have asked : AskedBy asking (.search "surv") := .search rfl rfl
  have asked' : AskedBy asking' (.search "surv") := .search rfl rfl
  have hreload : AskedBy reload .reload := .reload rfl
  have hcannot : h.CannotLoad disk := .inl ⟨.notFound, rfl⟩
  have answers := handleJson_answers h disk ⟨⟨1⟩, "id"⟩
  exact ⟨⟨nothing, (answers nameless).1.mpr nothing⟩,
    ⟨asked, asked', (answers asking).2.2.2.2 _ _ asked asked'⟩,
    hreload, hcannot, (answers reload).2.1.mpr ⟨hreload, hcannot⟩⟩

end Handler

end ShipManifest

import ShipManifest.Proofs.Lines
import ShipManifest.Proofs.Places

/-!
# Written queries

A query is written as its tokens between colons: a key is written as its stem, with its value or an empty token behind
it, and a key whose value is missing stands alone (`Query.written`).

* Whatever the stride, a line gives well-formed queries only (`Query.wellFormed_ofTokens`).
* The tokens that are written of a well-formed query are read as that query (`Query.ofTokens_written`).

Main statement: a query can be read of a line exactly if it is well-formed, and exactly if it is read from what is
written of it (`Query.wellFormed_iff_written`).
-/

namespace ShipManifest

/-! ## Stems -/

namespace Key

/-- A stem names its key. -/
theorem ofToken?_stem (key : Key) : ofToken? key.stem.toList = some key := by
  rcases key with key | key <;> cases key <;> decide

theorem colon_not_mem_stem (key : Key) : ':' ∉ key.stem.toList := by
  rcases key with key | key <;> cases key <;> decide

end Key

/-- The tokens of a directive. A flag has an empty token in the place of a value. -/
def Directive.written : Directive → List (List Char)
  | ⟨.text key, some value⟩ => [(Key.text key).stem.toList, value.toList]
  | ⟨.text key, none⟩ => [(Key.text key).stem.toList]
  | ⟨.flag key, _⟩ => [(Key.flag key).stem.toList, []]

namespace Query

/-- The query as a line. -/
def written (query : Query) : String :=
  String.ofList ([':'].intercalate (query.flatMap Directive.written))

/-- Directives as a line gives them: a flag has no value, a text key has a value without colons, and only at the end may
its value be missing. -/
inductive WellFormed : Query → Prop
  | nil : WellFormed []
  | bare (key : TextKey) : WellFormed [⟨.text key, none⟩]
  | value (key : TextKey) {value : String} {rest : Query} :
      ':' ∉ value.toList → WellFormed rest → WellFormed (⟨.text key, some value⟩ :: rest)
  | flag (key : FlagKey) {rest : Query} : WellFormed rest → WellFormed (⟨.flag key, none⟩ :: rest)

variable {stride : Stride}

/-! ## What is read -/

/-- A token names no key, or a flag, or a text key, which takes the next token as its value. -/
theorem directive?_cases (stride : Stride) (token : List Char) (next : Option (List Char)) :
    directive? token next = none ∨ (∃ key, directive? token next = some ⟨.flag key, none⟩) ∨
      takesNext stride token = true ∧ ∃ key, directive? token next = some ⟨.text key, next.map String.ofList⟩ := by
  cases hkey : Key.ofToken? token with
  | none => simp [directive?, hkey]
  | some key =>
    cases key with
    | flag key => exact .inr (.inl ⟨key, by simp [directive?, hkey, Key.takesValue]⟩)
    | text key =>
      have htakes : takesNext stride token = true := by cases stride <;> simp [takesNext, hkey, Key.takesValue]
      exact .inr (.inr ⟨htakes, key, by simp [directive?, hkey, Key.takesValue]⟩)

/-- In front of a well-formed query, a directive that has its value leaves it well-formed. -/
theorem wellFormed_directive? (stride : Stride) {token : List Char} {next : Option (List Char)} {rest : Query}
    (hnext : takesNext stride token = true → ∃ value ∈ next, ':' ∉ value) (hrest : WellFormed rest) :
    WellFormed ((directive? token next).toList ++ rest) := by
  rcases directive?_cases stride token next with hd | ⟨key, hd⟩ | ⟨htakes, key, hd⟩
  · rw [hd]
    exact hrest
  · rw [hd]
    exact .flag key hrest
  · obtain ⟨value, rfl, hvalue⟩ := hnext htakes
    rw [hd]
    exact .value key (by rwa [String.toList_ofList]) hrest

/-- Tokens without colons are read as a well-formed query. -/
theorem wellFormed_ofTokens {tokens : List (List Char)} (h : ∀ token ∈ tokens, ':' ∉ token) :
    WellFormed (ofTokens stride tokens) := by
  induction tokens using reading_induction stride with
  | nil => exact .nil
  | alone token rest htakes ih =>
    rw [ofTokens_alone htakes]
    refine wellFormed_directive? stride (fun htrue => ?_) (ih (List.forall_mem_cons.mp h).2)
    rw [htakes] at htrue
    cases htrue
  | last token htakes =>
    rw [ofTokens_last]
    rcases directive?_cases stride token none with hd | ⟨key, hd⟩ | ⟨-, key, hd⟩
    · rw [hd]
      exact .nil
    · rw [hd]
      exact .flag key .nil
    · rw [hd]
      exact .bare key
  | pair token next rest htakes ih =>
    obtain ⟨-, hnext, hrest⟩ : ':' ∉ token ∧ ':' ∉ next ∧ ∀ t ∈ rest, ':' ∉ t := by simpa using h
    rw [ofTokens_pair htakes]
    exact wellFormed_directive? stride (fun _ => ⟨next, rfl, hnext⟩) (ih hrest)

theorem wellFormed_parse (stride : Stride) (input : String) : WellFormed (parse stride input) := by
  rw [parse_eq_ofTokens]
  exact wellFormed_ofTokens fun token htoken => Text.not_mem_of_mem_splitOn htoken

/-! ## What is written -/

variable {query : Query}

theorem WellFormed.no_colon (h : WellFormed query) : ∀ token ∈ query.flatMap Directive.written, ':' ∉ token := by
  induction h with
  | nil => simp
  | bare key => simpa [Directive.written] using Key.colon_not_mem_stem (.text key)
  | value key hvalue _ ih =>
    rw [List.flatMap_cons, List.forall_mem_append]
    exact ⟨by simpa [Directive.written, hvalue] using Key.colon_not_mem_stem (.text key), ih⟩
  | flag key _ ih =>
    rw [List.flatMap_cons, List.forall_mem_append]
    exact ⟨by simpa [Directive.written] using Key.colon_not_mem_stem (.flag key), ih⟩

/-- No key has the empty token, so with either stride it only takes the place of a value. -/
theorem ofTokens_flag (key : FlagKey) (rest : List (List Char)) :
    ofTokens stride ((Key.flag key).stem.toList :: [] :: rest) = ⟨.flag key, none⟩ :: ofTokens stride rest := by
  have hnone : Key.ofToken? [] = none := Key.ofToken?_of_isBlank rfl
  have hflag : ∀ next, directive? (Key.flag key).stem.toList next = some ⟨.flag key, none⟩ := by
    simp [directive?, Key.ofToken?_stem, Key.takesValue]
  cases stride with
  | paired =>
    rw [ofTokens_pair rfl, hflag]
    rfl
  | compact =>
    have hstem : takesNext .compact (Key.flag key).stem.toList = false := by
      simp [takesNext, Key.ofToken?_stem, Key.takesValue]
    have hempty : takesNext .compact [] = false := by simp [takesNext, hnone]
    rw [ofTokens_alone hstem, ofTokens_alone hempty, hflag]
    simp [directive?, hnone]

/-- The tokens that are written of a well-formed query are read as the query. -/
theorem ofTokens_written (stride : Stride) (h : WellFormed query) :
    ofTokens stride (query.flatMap Directive.written) = query := by
  induction h with
  | nil => simp [ofTokens]
  | bare key => simp [Directive.written, ofTokens, Key.ofToken?_stem]
  | value key _ _ ih =>
    rw [List.flatMap_cons, Directive.written]
    simp [ofTokens, Key.ofToken?_stem, ih]
  | flag key _ ih => exact (ofTokens_flag key _).trans (congrArg (⟨.flag key, none⟩ :: ·) ih)

/-- What is written of a well-formed query is read as the query. -/
theorem parse_written (h : WellFormed query) : parse stride query.written = query := by
  by_cases hempty : query.flatMap Directive.written = []
  · -- nothing is written, so there is no directive
    have hquery : query = [] := by
      have hread := ofTokens_written stride h
      rwa [hempty, ofTokens, eq_comm] at hread
    rw [hquery]
    rfl
  · rw [parse_eq_ofTokens, tokens, written, String.toList_ofList, List.splitOn_intercalate ':' h.no_colon hempty,
      ofTokens_written stride h]

/-- **A query can be read exactly if it is well-formed, and then writing it loses nothing**, with either stride. -/
theorem wellFormed_iff_written (stride : Stride) :
    (∀ query, WellFormed query ↔ ∃ input, parse stride input = query) ∧
      ∀ query, WellFormed query ↔ parse stride query.written = query := by
  refine ⟨fun query => ⟨fun h => ⟨query.written, parse_written h⟩, ?_⟩, fun query => ⟨parse_written, fun h => ?_⟩⟩
  · rintro ⟨input, rfl⟩
    exact wellFormed_parse stride input
  · rw [← h]
    exact wellFormed_parse stride query.written

/-- A value that looks like a flag, an empty value, a flag with its placeholder, and a key whose value is missing. -/
example : written [⟨.text .role, some "crew"⟩, ⟨.text .lastName, some ""⟩, ⟨.flag .passenger, none⟩,
    ⟨.text .firstName, none⟩] = "ROLE:crew:LAST::PAX::FIRS" := by
  decide

end Query

end ShipManifest

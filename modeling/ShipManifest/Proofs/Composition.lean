import ShipManifest.Proofs.Evaluation
import ShipManifest.Proofs.Places

/-!
# Queries one behind the other

* A query applied to what another one left is both of them applied (`Query.narrow_append`).
* Tokens that end at a key place are read apart from whatever follows (`Query.ofTokens_append`). If they do not, the
  token that follows is taken by the last of them and adds no directive (`Query.length_ofTokens_append_of_taken`).
* Whether a line ends at a key place can be told from the number of its tokens or from its last directive
  (`Query.isClosed_eq_keyPlace`).

Main statement: exactly behind a closed line, any other line is read as it is alone, so the two of them narrow one after
the other (`Query.closed_lines_compose`).
-/

namespace ShipManifest.Query

/-! ## Narrowing twice -/

theorem narrow_append (mode : MatchMode) (first second : Query) (listed : List Listed) :
    narrow mode (first ++ second) listed = narrow mode second (narrow mode first listed) := by
  rw [narrow_eq_narrowFully, narrow_eq_narrowFully, narrow_eq_narrowFully]
  exact List.foldl_append

/-! ## Tokens one behind the other -/

section Tokens

variable {stride : Stride} {token next : List Char} {rest : List (List Char)}

/-- A token that takes no other does not look at the next one. -/
theorem directive?_of_alone (h : takesNext stride token = false) (next next' : Option (List Char)) :
    directive? token next = directive? token next' := by
  cases stride with
  | paired => cases h
  | compact =>
    cases hkey : Key.ofToken? token with
    | none => simp [directive?, hkey]
    | some key =>
      have hflag : key.takesValue = false := by simpa [takesNext, hkey] using h
      simp [directive?, hkey, hflag]

theorem length_directive? (token : List Char) (next next' : Option (List Char)) :
    (directive? token next).toList.length = (directive? token next').toList.length := by
  cases hkey : Key.ofToken? token <;> simp [directive?, hkey]

/-! Whether a list of tokens ends at a key place is decided where the reader stops. -/

theorem keyPlace_end_alone (h : takesNext stride token = false) :
    keyPlace stride (token :: rest) (token :: rest).length = keyPlace stride rest rest.length := by
  have hplace : keyPlace stride (token :: rest) 1 = true := by simp [keyPlace_one, h]
  rw [List.length_cons, Nat.add_comm, keyPlace_add hplace]
  rfl

theorem keyPlace_end_last (h : takesNext stride token = true) : keyPlace stride [token] [token].length = false := by
  rw [List.length_singleton, keyPlace_one, h]
  rfl

theorem keyPlace_end_pair (h : takesNext stride token = true) :
    keyPlace stride (token :: next :: rest) (token :: next :: rest).length = keyPlace stride rest rest.length := by
  have hlength : (token :: next :: rest).length = 2 + rest.length := by
    simp only [List.length_cons]
    omega
  rw [hlength, keyPlace_add (keyPlace_two h)]
  rfl

/-- Tokens that end at a key place are read apart from those that follow. -/
theorem ofTokens_append {tokens : List (List Char)} (h : keyPlace stride tokens tokens.length = true)
    (further : List (List Char)) :
    ofTokens stride (tokens ++ further) = ofTokens stride tokens ++ ofTokens stride further := by
  induction tokens using reading_induction stride with
  | nil => simp [ofTokens]
  | alone token rest htakes ih =>
    rw [keyPlace_end_alone htakes] at h
    rw [List.cons_append, ofTokens_alone htakes, ofTokens_alone htakes, ih h, List.append_assoc,
      directive?_of_alone htakes (rest ++ further).head? rest.head?]
  | last token htakes =>
    rw [keyPlace_end_last htakes] at h
    cases h
  | pair token next rest htakes ih =>
    rw [keyPlace_end_pair htakes] at h
    rw [List.cons_append, List.cons_append, ofTokens_pair htakes, ofTokens_pair htakes, ih h, List.append_assoc]

/-- Behind tokens that do not end at a key place, one more token is taken by the last of them. -/
theorem length_ofTokens_append_of_taken {tokens : List (List Char)}
    (h : keyPlace stride tokens tokens.length = false) (token : List Char) :
    (ofTokens stride (tokens ++ [token])).length = (ofTokens stride tokens).length := by
  induction tokens using reading_induction stride with
  | nil => cases h
  | alone first rest htakes ih =>
    rw [keyPlace_end_alone htakes] at h
    rw [List.cons_append, ofTokens_alone htakes, ofTokens_alone htakes, List.length_append, List.length_append, ih h,
      length_directive? first _ rest.head?]
  | last first htakes =>
    rw [List.singleton_append, ofTokens_pair htakes, ofTokens_last, ofTokens, List.append_nil,
      length_directive? first _ none]
  | pair first next rest htakes ih =>
    rw [keyPlace_end_pair htakes] at h
    rw [List.cons_append, List.cons_append, ofTokens_pair htakes, ofTokens_pair htakes, List.length_append,
      List.length_append, ih h]

end Tokens

/-! ## Closed lines -/

/-- Whether the last directive is that of a key whose value is missing. -/
def awaitsValue (query : Query) : Bool :=
  query.getLast?.any fun directive => directive.key.takesValue && directive.value.isNone

/-- Whether the line takes nothing from behind it: its tokens come in pairs, or no value is missing at its end. -/
def isClosed : Stride → String → Bool
  | .paired, line => (tokens line).length % 2 == 0
  | .compact, line => !awaitsValue (parse .compact line)

theorem awaitsValue_append {directive : Option Directive}
    (h : ∀ d ∈ directive, (d.key.takesValue && d.value.isNone) = false) (query : Query) :
    awaitsValue (directive.toList ++ query) = awaitsValue query := by
  cases directive with
  | none => rfl
  | some d =>
    have hd := h d rfl
    cases query with
    | nil => simpa [awaitsValue] using hd
    | cons d' query => simp [awaitsValue, List.getLast?_cons]

/-- A value is missing at the end exactly if the tokens do not end at a key place. -/
theorem awaitsValue_ofTokens (tokens : List (List Char)) :
    awaitsValue (ofTokens .compact tokens) = !keyPlace .compact tokens tokens.length := by
  induction tokens using reading_induction Stride.compact with
  | nil => rfl
  | alone token rest htakes ih =>
    rw [keyPlace_end_alone htakes, ofTokens_alone htakes, awaitsValue_append, ih]
    intro d hd
    obtain ⟨key, hkey, rfl⟩ := Option.map_eq_some_iff.mp hd
    have hflag : key.takesValue = false := by simpa [takesNext, hkey] using htakes
    simp [hflag]
  | last token htakes =>
    obtain ⟨key, hkey, hvalue⟩ := (Option.any_eq_true _ _).mp htakes
    rw [keyPlace_end_last htakes, ofTokens_last]
    simp [directive?, hkey, hvalue, awaitsValue]
  | pair token next rest htakes ih =>
    rw [keyPlace_end_pair htakes, ofTokens_pair htakes, awaitsValue_append, ih]
    intro d hd
    obtain ⟨key, hkey, rfl⟩ := Option.map_eq_some_iff.mp hd
    simp

/-- A line is closed exactly if its tokens end at a key place. -/
theorem isClosed_eq_keyPlace (stride : Stride) (line : String) :
    isClosed stride line = keyPlace stride (tokens line) (tokens line).length := by
  cases stride with
  | paired =>
    rw [isClosed, keyPlace_paired (tokens line) (Nat.le_refl _)]
    rfl
  | compact => rw [isClosed, parse_eq_ofTokens, awaitsValue_ofTokens, Bool.not_not]

theorem parse_append_of_isClosed {stride : Stride} {a : String} (h : isClosed stride a = true) (b : String) :
    parse stride (a ++ ":" ++ b) = parse stride a ++ parse stride b := by
  rw [isClosed_eq_keyPlace] at h
  rw [parse_eq_ofTokens, parse_eq_ofTokens, parse_eq_ofTokens, tokens_append, ofTokens_append h]

/-- Behind a line that is not closed, a line of one flag is lost. -/
theorem parse_append_flag_ne {stride : Stride} {a : String} (h : isClosed stride a = false) :
    parse stride (a ++ ":" ++ "crew") ≠ parse stride a ++ parse stride "crew" := by
  intro heq
  rw [isClosed_eq_keyPlace] at h
  have hflag : tokens "crew" = ["crew".toList] := by decide
  have hone : (parse stride "crew").length = 1 := by cases stride <;> decide
  have hlength := congrArg List.length heq
  rw [parse_eq_ofTokens, tokens_append, hflag, length_ofTokens_append_of_taken h, List.length_append,
    ← parse_eq_ofTokens] at hlength
  omega

/-- **Lines compose.** Exactly behind a closed line, every other line is read as it is alone, and then the two of them
find what the second one finds among what the first one found. -/
theorem closed_lines_compose (stride : Stride) (a : String) :
    (isClosed stride a = true ↔ ∀ b, parse stride (a ++ ":" ++ b) = parse stride a ++ parse stride b) ∧
    (isClosed stride a = true → ∀ mode listed b,
      evaluate ⟨stride, mode⟩ listed (a ++ ":" ++ b) =
        evaluate ⟨stride, mode⟩ (evaluate ⟨stride, mode⟩ listed a).found b) := by
  refine ⟨⟨fun hclosed => parse_append_of_isClosed hclosed, fun hcompose => ?_⟩, fun hclosed mode listed b => ?_⟩
  · cases hclosed : isClosed stride a with
    | true => rfl
    | false => exact absurd (hcompose "crew") (parse_append_flag_ne hclosed)
  · rw [evaluate, evaluate, apply, apply, parse_append_of_isClosed hclosed, narrow_append]
    rfl

/-- Behind a value that looks like a key and a flag, a line with a placeholder. With paired tokens the flag takes the
first token of that line. -/
theorem closed_lines_compose_behind_flag :
    let a := "first:last:surv"
    let b := "crew:x"
    let listed := Listed.ofRecords [Record.ofRow ["A/the last", "", "", "Crew", "", "T"],
      Record.ofRow ["B/the last", "", "", "Passenger", "", "T"], Record.ofRow ["C/the first", "", "", "Crew", "", "T"]]
    isClosed .compact a = true ∧ isClosed .paired a = false ∧
      parse .compact (a ++ ":" ++ b) = parse .compact a ++ parse .compact b ∧
      parse .paired (a ++ ":" ++ b) ≠ parse .paired a ++ parse .paired b ∧
      evaluate ⟨.compact, .exact⟩ listed (a ++ ":" ++ b) =
        evaluate ⟨.compact, .exact⟩ (evaluate ⟨.compact, .exact⟩ listed a).found b ∧
      (evaluate ⟨.compact, .exact⟩ listed (a ++ ":" ++ b)).found.map (·.position) = [0] := by
  intro a b listed
  have hclosed : isClosed .compact a = true := by decide +kernel
  exact ⟨hclosed, by decide +kernel, (closed_lines_compose .compact a).1.mp hclosed b, by decide +kernel,
    (closed_lines_compose .compact a).2 hclosed .exact listed b, by decide +kernel⟩

end ShipManifest.Query

import Mathlib.Data.List.Basic
import Mathlib.Tactic.Tauto
import ShipManifest.Query.Basic

/-!
# Queries by the places of their tokens

The tokens of a query stand at places counted from zero. Whether a token is read as a key depends on the tokens before
it only (`Query.keyPlace`): the first one is, and behind a key that takes the next token no key is read.

* Blank text names no key (`Key.ofToken?_of_isBlank`), so a blank line needs no rule of its own
  (`Query.parse_eq_ofTokens`).
* From the left, a token is read alone (`Query.ofTokens_alone`) or with the next one (`Query.ofTokens_pair`), and facts
  about the reader are proved along these steps (`Query.reading_induction`).
* Behind the tokens before a key place the places are counted anew (`Query.keyPlace_add`), so the steps of the reader
  are the key places (`Query.ofTokens_eq_filterMap`).

Main statement: the directives of a query are those of its key places, in order (`Query.parse_by_places`).
-/

namespace ShipManifest

/-! ## Blank text -/

namespace Text

theorem exists_add_of_between {low high c : Char} (hlow : low ≤ c) (hhigh : c ≤ high) :
    ∃ i, i ≤ high.toNat - low.toNat ∧ c = Char.ofNat (low.toNat + i) := by
  have hlow : low.toNat ≤ c.toNat := hlow
  have hhigh : c.toNat ≤ high.toNat := hhigh
  refine ⟨c.toNat - low.toNat, by omega, ?_⟩
  rw [Nat.add_sub_cancel' hlow, Char.ofNat_toNat]

/-- The white space that does not stand in a row with other white space. -/
def singleSpaces : List Char :=
  [' ', '\u0085', '\u00a0', '\u1680', '\u2028', '\u2029', '\u202f', '\u205f', '\u3000']

/-- White space is its own capital form. -/
theorem upperChar_of_isSpace {c : Char} (h : isSpace c = true) : upperChar c = [c] := by
  have hcases : c ∈ singleSpaces ∨ ('\t' ≤ c ∧ c ≤ '\r') ∨ ('\u2000' ≤ c ∧ c ≤ '\u200a') := by
    simp only [isSpace, Bool.or_eq_true, Bool.and_eq_true, beq_iff_eq, decide_eq_true_eq] at h
    simp only [singleSpaces, List.mem_cons, List.not_mem_nil, or_false]
    tauto
  rcases hcases with h | ⟨hlow, hhigh⟩ | ⟨hlow, hhigh⟩
  · have single : singleSpaces.all (fun c => upperChar c == [c]) = true := by decide
    exact eq_of_beq (List.all_eq_true.mp single c h)
  · have control : ∀ i ≤ 4, upperChar (Char.ofNat (9 + i)) = [Char.ofNat (9 + i)] := by decide
    obtain ⟨i, hi, rfl⟩ := exists_add_of_between hlow hhigh
    exact control i hi
  · have general : ∀ i ≤ 10, upperChar (Char.ofNat (0x2000 + i)) = [Char.ofNat (0x2000 + i)] := by decide
    obtain ⟨i, hi, rfl⟩ := exists_add_of_between hlow hhigh
    exact general i hi

theorem upper_of_isBlank {cs : List Char} (h : isBlank cs = true) : upper cs = cs := by
  induction cs with
  | nil => rfl
  | cons c cs ih =>
    rw [isBlank_cons, Bool.and_eq_true] at h
    have hcs : cs.flatMap upperChar = cs := ih h.2
    rw [upper, List.flatMap_cons, upperChar_of_isSpace h.1, hcs]
    rfl

end Text

/-- No stem is blank, so blank text names no key. -/
theorem Key.ofToken?_of_isBlank {token : List Char} (h : Text.isBlank token = true) : ofToken? token = none := by
  rw [ofToken?, List.find?_eq_none]
  intro key _ heq
  rw [beq_iff_eq, Text.upper_of_isBlank h] at heq
  have hstem : Text.isBlank key.stem.toList = true := by
    rw [heq]
    exact List.all_eq_true.mpr fun c hc => List.all_eq_true.mp h c (List.mem_of_mem_take hc)
  have hnone : ∀ key : Key, Text.isBlank key.stem.toList = false := by
    rintro (key | key) <;> cases key <;> decide
  exact absurd hstem (by simp [hnone key])

namespace Query

/-! ## One token -/

/-- The tokens of a line. -/
def tokens (input : String) : List (List Char) :=
  input.toList.splitOn ':'

theorem tokens_append (a b : String) : tokens (a ++ ":" ++ b) = tokens a ++ tokens b := by
  have h : (a ++ ":" ++ b).toList = a.toList ++ ':' :: b.toList := by simp
  rw [tokens, h, List.splitOn_append_cons_self]
  rfl

/-- A blank line holds no key, so it is no special case. -/
theorem parse_eq_ofTokens (stride : Stride) (input : String) : parse stride input = ofTokens stride (tokens input) := by
  unfold parse
  split
  · rename_i hblank
    have hcolon : ':' ∉ input.toList := fun hmem => by
      have hspace : Text.isSpace ':' = true := List.all_eq_true.mp hblank ':' hmem
      exact absurd hspace (by decide)
    rw [tokens, List.splitOn_eq_singleton hcolon, ofTokens, Key.ofToken?_of_isBlank hblank]
  · rfl

/-- Whether the reader takes the token behind this one, too. -/
def takesNext : Stride → List Char → Bool
  | .paired, _ => true
  | .compact, token => (Key.ofToken? token).any Key.takesValue

/-- What a token asks for where a key is read, given the token behind it. -/
def directive? (token : List Char) (next : Option (List Char)) : Option Directive :=
  (Key.ofToken? token).map fun key => ⟨key, if key.takesValue then next.map String.ofList else none⟩

section Reading

variable {stride : Stride} {token next : List Char} {rest : List (List Char)}

theorem ofTokens_last : ofTokens stride [token] = (directive? token none).toList := by
  cases hkey : Key.ofToken? token <;> simp [ofTokens, directive?, hkey]

/-- A token that takes no other is read alone. -/
theorem ofTokens_alone (h : takesNext stride token = false) :
    ofTokens stride (token :: rest) = (directive? token rest.head?).toList ++ ofTokens stride rest := by
  cases stride with
  | paired => cases h
  | compact =>
    cases rest with
    | nil =>
      rw [ofTokens_last]
      simp [ofTokens]
    | cons next rest =>
      cases hkey : Key.ofToken? token with
      | none => simp [ofTokens, directive?, hkey]
      | some key =>
        cases key with
        | text key => simp [takesNext, Key.takesValue, hkey] at h
        | flag key => simp [ofTokens, directive?, Key.takesValue, hkey]

/-- A token that takes the next one is read with it. -/
theorem ofTokens_pair (h : takesNext stride token = true) :
    ofTokens stride (token :: next :: rest) = (directive? token (some next)).toList ++ ofTokens stride rest := by
  cases hkey : Key.ofToken? token with
  | none => cases stride <;> simp_all [ofTokens, directive?, takesNext]
  | some key => cases key <;> cases stride <;> simp_all [ofTokens, directive?, takesNext, Key.takesValue]

/-- Tokens are read from the left, either alone or with the next one, which the last one may lack. -/
@[elab_as_elim]
theorem reading_induction (stride : Stride) {motive : List (List Char) → Prop} (nil : motive [])
    (alone : ∀ token rest, takesNext stride token = false → motive rest → motive (token :: rest))
    (last : ∀ token, takesNext stride token = true → motive [token])
    (pair : ∀ token next rest, takesNext stride token = true → motive rest → motive (token :: next :: rest)) :
    ∀ tokens, motive tokens
  | [] => nil
  | [token] => by
    cases htakes : takesNext stride token with
    | false => exact alone token [] htakes nil
    | true => exact last token htakes
  | token :: next :: rest => by
    cases htakes : takesNext stride token with
    | false => exact alone token (next :: rest) htakes (reading_induction stride nil alone last pair (next :: rest))
    | true => exact pair token next rest htakes (reading_induction stride nil alone last pair rest)

end Reading

/-! ## Places -/

/-- Whether the token at the place is read as a key. Only the tokens before it count. -/
def keyPlace (stride : Stride) (tokens : List (List Char)) : Nat → Bool
  | 0 => true
  | place + 1 => !(keyPlace stride tokens place && tokens[place]?.any (takesNext stride))

/-- The directive of the token at the place. -/
def directiveAt? (tokens : List (List Char)) (place : Nat) : Option Directive :=
  tokens[place]?.bind fun token => directive? token tokens[place + 1]?

/-- Behind the tokens before a key place, the places are counted anew. -/
theorem keyPlace_add {stride : Stride} {tokens : List (List Char)} {start : Nat}
    (h : keyPlace stride tokens start = true) (place : Nat) :
    keyPlace stride tokens (start + place) = keyPlace stride (tokens.drop start) place := by
  induction place with
  | zero => exact h
  | succ place ih => rw [← Nat.add_assoc, keyPlace, keyPlace, ih, List.getElem?_drop]

/-- What is read at the place: its directive, if a key is read there. -/
def readAt? (stride : Stride) (tokens : List (List Char)) (place : Nat) : Option Directive :=
  if keyPlace stride tokens place then directiveAt? tokens place else none

theorem readAt?_add {stride : Stride} {tokens : List (List Char)} {start : Nat}
    (h : keyPlace stride tokens start = true) (place : Nat) :
    readAt? stride tokens (start + place) = readAt? stride (tokens.drop start) place := by
  rw [readAt?, readAt?, keyPlace_add h, directiveAt?, directiveAt?, List.getElem?_drop, List.getElem?_drop,
    Nat.add_assoc]

section FirstPlaces

variable {stride : Stride} {token next : List Char} {rest : List (List Char)}

theorem keyPlace_one : keyPlace stride (token :: rest) 1 = !takesNext stride token := by
  simp [keyPlace]

theorem keyPlace_two (h : takesNext stride token = true) : keyPlace stride (token :: next :: rest) 2 = true := by
  rw [keyPlace, keyPlace_one, h]
  rfl

theorem readAt?_zero : readAt? stride (token :: rest) 0 = directive? token rest.head? := by
  simp [readAt?, keyPlace, directiveAt?, List.head?_eq_getElem?]

theorem readAt?_one (h : takesNext stride token = true) : readAt? stride (token :: rest) 1 = none := by
  simp [readAt?, keyPlace_one, h]

end FirstPlaces

theorem filterMap_range_succ {α : Type} (f : Nat → Option α) (n : Nat) :
    (List.range (n + 1)).filterMap f = (f 0).toList ++ (List.range n).filterMap fun i => f (1 + i) := by
  rw [List.range_succ_eq_map]
  cases h : f 0 <;> simp [h, List.filterMap_map, Nat.add_comm 1]

/-- The reader finds what is read at the places, in order. -/
theorem ofTokens_eq_filterMap (stride : Stride) (tokens : List (List Char)) :
    ofTokens stride tokens = (List.range tokens.length).filterMap (readAt? stride tokens) := by
  induction tokens using reading_induction stride with
  | nil => simp [ofTokens]
  | alone token rest htakes ih =>
    have hplace : keyPlace stride (token :: rest) 1 = true := by simp [keyPlace_one, htakes]
    rw [ofTokens_alone htakes, List.length_cons, filterMap_range_succ, readAt?_zero, ih]
    simp only [readAt?_add hplace, List.drop_one, List.tail_cons]
  | last token htakes =>
    rw [ofTokens_last, List.length_singleton, filterMap_range_succ, readAt?_zero]
    simp
  | pair token next rest htakes ih =>
    have hplace : keyPlace stride (token :: next :: rest) 2 = true := keyPlace_two htakes
    rw [ofTokens_pair htakes, List.length_cons, filterMap_range_succ, readAt?_zero, List.length_cons,
      filterMap_range_succ, Nat.add_zero, readAt?_one htakes, ih]
    simp only [← Nat.add_assoc, readAt?_add hplace, List.head?_cons, Option.toList_none, List.nil_append,
      List.drop_succ_cons, List.drop_zero]

/-- Where every key takes the next token, keys are read at the even places. -/
theorem keyPlace_paired (tokens : List (List Char)) {place : Nat} (h : place ≤ tokens.length) :
    keyPlace .paired tokens place = decide (place % 2 = 0) := by
  induction place with
  | zero => rfl
  | succ place ih =>
    have htoken : tokens[place]? = some tokens[place] := List.getElem?_eq_getElem h
    rw [keyPlace, ih (Nat.le_of_succ_le h), htoken]
    simp only [Option.any_some, takesNext, Bool.and_true, ← decide_not, decide_eq_decide]
    omega

/-- A token is a value exactly behind a key that takes one. -/
theorem keyPlace_compact_succ (tokens : List (List Char)) (place : Nat) :
    keyPlace .compact tokens (place + 1) = false ↔ keyPlace .compact tokens place = true ∧
      ∃ token key, tokens[place]? = some token ∧ Key.ofToken? token = some key ∧ key.takesValue = true := by
  simp [keyPlace, takesNext, Option.any_eq_true]

/-- **A query is read place by place.** Its directives are those of the tokens at the key places, in order, and a key
that takes a value has the token at the next place for it. With paired tokens the key places are the even ones.
Otherwise they are all but those behind a key that takes a value, which stands at a key place itself. -/
theorem parse_by_places (input : String) :
    let tokens := tokens input
    let directives (isKey : Nat → Bool) :=
      (List.range tokens.length).filterMap fun place => if isKey place then directiveAt? tokens place else none
    parse .paired input = directives (fun place => place % 2 = 0) ∧
    parse .compact input = directives (keyPlace .compact tokens) ∧
    keyPlace .compact tokens 0 = true ∧
    ∀ place, keyPlace .compact tokens (place + 1) = false ↔ keyPlace .compact tokens place = true ∧
      ∃ token key, tokens[place]? = some token ∧ Key.ofToken? token = some key ∧ key.takesValue = true := by
  intro tokens directives
  refine ⟨?_, ?_, rfl, keyPlace_compact_succ tokens⟩
  · rw [parse_eq_ofTokens, ofTokens_eq_filterMap]
    refine List.filterMap_congr fun place hplace => ?_
    rw [readAt?, keyPlace_paired tokens (Nat.le_of_lt (List.mem_range.mp hplace))]
  · rw [parse_eq_ofTokens, ofTokens_eq_filterMap]
    rfl

end Query

end ShipManifest

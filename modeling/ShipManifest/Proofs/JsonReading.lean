import ShipManifest.Json.Read

/-!
# Reading back written texts

Characters may be written in more than one way. Any spelling that the reader takes as one character (`Json.Spells`)
makes quoted texts that are read back as they were (`Json.quotes_spelled`), and objects of such texts are read back
member by member, in their order and with repeated keys (`Json.read_object`).

Where a reading ends, only what is left is of interest and not its place, so the place is always one that exists.
-/

namespace ShipManifest.Json

/-! ## Characters -/

/-- Inside a text, the characters `cs` are read as the character `c`, whatever comes before and behind them. -/
def Spells (cs : List Char) (c : Char) : Prop :=
  ∀ done p rest, ∃ p', readChars done p (cs ++ rest) = readChars (c :: done) p' rest

/-- Most characters may stand for themselves. -/
theorem spells_self {c : Char} (hq : c ≠ '"') (hb : c ≠ '\\') (hc : 0x20 ≤ c.toNat) : Spells [c] c := by
  intro done p rest
  have h : ¬ c.toNat < 0x20 := by omega
  refine ⟨p.behind c, ?_⟩
  simp [readChars, hb, h]

/-- Some have a letter behind a backslash. -/
theorem spells_letter {x c : Char} (hu : x ≠ 'u') (hx : escaped? x = some c) : Spells ['\\', x] c := by
  intro done p rest
  refine ⟨(p.behind '\\').behind x, ?_⟩
  simp [readChars, hx]

theorem hexValue?_digitChar : ∀ d < 16, hexValue? d.digitChar = some d := by
  decide

/-- The first 256 characters may be written as their code points with two digits. -/
theorem spells_code {c : Char} (hc : c.toNat < 0x100) :
    Spells ['\\', 'u', '0', '0', (c.toNat / 16).digitChar, (c.toNat % 16).digitChar] c := by
  intro done p rest
  have hhigh := hexValue?_digitChar (c.toNat / 16) (by omega)
  have hlow := hexValue?_digitChar (c.toNat % 16) (by omega)
  have hzero : hexValue? '0' = some 0 := by decide
  have hvalue : hexValue4? '0' '0' (c.toNat / 16).digitChar (c.toNat % 16).digitChar = some c.toNat := by
    simp [hexValue4?, hzero, hhigh, hlow]
    omega
  -- no surrogate, so the reader does not look for a second half
  have hsmall : c.toNat < 0xD800 := by omega
  have hlone : ¬ (0xDC00 ≤ c.toNat ∧ c.toNat ≤ 0xDFFF) := by omega
  simp only [List.cons_append, List.nil_append]
  rw [readChars]
  simp only [hvalue, hlone, hsmall, ↓reduceIte, true_or, Char.ofNat_toNat]
  exact ⟨_, rfl⟩

/-- Spelled characters are read up to the closing quote. -/
theorem readChars_spelled {spell : Char → List Char} (hs : ∀ c, Spells (spell c) c) (cs done : List Char) (p : Place)
    (rest : List Char) : ∃ p', readChars done p (cs.flatMap spell ++ '"' :: rest) =
      .ok (String.ofList (done.reverse ++ cs), ⟨rest, p'⟩) := by
  induction cs generalizing done p with
  | nil =>
    refine ⟨p.behind '"', ?_⟩
    simp [readChars]
  | cons c cs ih =>
    obtain ⟨p₁, h₁⟩ := hs c done p (cs.flatMap spell ++ '"' :: rest)
    obtain ⟨p₂, h₂⟩ := ih (c :: done) p₁
    refine ⟨p₂, ?_⟩
    rw [List.flatMap_cons, List.append_assoc, h₁, h₂]
    simp

/-! ## Quoted texts -/

/-- The characters are a quoted text that is read as `s`. -/
def Quotes (cs : List Char) (s : String) : Prop :=
  ∃ body, cs = '"' :: body ∧ ∀ p rest, ∃ p', readChars [] p (body ++ rest) = .ok (s, ⟨rest, p'⟩)

theorem quotes_spelled {spell : Char → List Char} (hs : ∀ c, Spells (spell c) c) (s : String) :
    Quotes ('"' :: s.toList.flatMap spell ++ ['"']) s := by
  refine ⟨s.toList.flatMap spell ++ ['"'], rfl, fun p rest => ?_⟩
  obtain ⟨p', h⟩ := readChars_spelled hs s.toList [] p rest
  refine ⟨p', ?_⟩
  simpa using h

theorem skipBlanks_cons {x : Char} (hx : ¬ (x = ' ' ∨ x = '\n' ∨ x = '\t' ∨ x = '\r')) (xs : List Char) (p : Place) :
    skipBlanks ⟨x :: xs, p⟩ = ⟨x :: xs, p⟩ := by
  rw [skipBlanks, skipBlanks.go, if_neg hx]

section Quoted

variable {cs : List Char} {s : String} (h : Quotes cs s) (p : Place) (rest : List Char)

include h

theorem skipBlanks_quoted : skipBlanks ⟨cs ++ rest, p⟩ = ⟨cs ++ rest, p⟩ := by
  obtain ⟨body, rfl, -⟩ := h
  exact skipBlanks_cons (by decide) _ p

theorem readText_quoted : ∃ p', readText ⟨cs ++ rest, p⟩ = .ok (s, ⟨rest, p'⟩) := by
  obtain ⟨body, rfl, hread⟩ := h
  exact hread (p.behind '"') rest

theorem readValue_quoted (depth : Nat) : ∃ p', readValue depth ⟨cs ++ rest, p⟩ = .ok (.text s, ⟨rest, p'⟩) := by
  obtain ⟨p', hread⟩ := readText_quoted h p rest
  refine ⟨p', ?_⟩
  unfold readValue
  rw [skipBlanks_quoted h]
  obtain ⟨body, rfl, -⟩ := h
  simp only [List.cons_append] at hread ⊢
  rw [hread]
  rfl

/-- The first key is found behind the opening brace. -/
theorem seekKey_first : seekKey true ⟨cs ++ rest, p⟩ = .ok (true, ⟨cs ++ rest, p⟩) := by
  unfold seekKey
  rw [skipBlanks_quoted h]
  obtain ⟨body, rfl, -⟩ := h
  rfl

/-- A further key is found behind a comma. -/
theorem seekKey_further : seekKey false ⟨',' :: (cs ++ rest), p⟩ = .ok (true, ⟨cs ++ rest, p.behind ','⟩) := by
  unfold seekKey
  rw [skipBlanks_cons (by decide)]
  have hnext : skipBlanks (Cursor.next ⟨',' :: (cs ++ rest), p⟩) = ⟨cs ++ rest, p.behind ','⟩ :=
    skipBlanks_quoted h _ _
  obtain ⟨body, rfl, -⟩ := h
  simp only [List.cons_append] at hnext ⊢
  rw [hnext]
  rfl

end Quoted

/-! ## Objects of texts -/

/-- A member whose value is a text. -/
def textMember (m : String × String) : String × Json :=
  (m.1, .text m.2)

section Objects

variable (quote : String → List Char)

/-- The characters of a member. -/
def memberChars (m : String × String) : List Char :=
  quote m.1 ++ ':' :: quote m.2

/-- The characters from behind a member to the end of the object. -/
def furtherChars : List (String × String) → List Char
  | [] => ['}']
  | m :: members => ',' :: memberChars quote m ++ furtherChars members

theorem memberChars_append (m : String × String) (rest : List Char) :
    memberChars quote m ++ rest = quote m.1 ++ ':' :: (quote m.2 ++ rest) := by
  simp [memberChars]

variable {quote} (hq : ∀ s, Quotes (quote s) s)

include hq

/-- Once its key is found, a member is read as it was written. -/
theorem readMembers_member (depth n : Nat) {done : List (String × Json)} {c : Cursor} {m : String × String} {p : Place}
    {rest : List Char} (hseek : seekKey done.isEmpty c = .ok (true, ⟨memberChars quote m ++ rest, p⟩)) :
    ∃ p', readMembers (readValue depth) (n + 1) done c =
      readMembers (readValue depth) n (textMember m :: done) ⟨rest, p'⟩ := by
  obtain ⟨p₁, hkey⟩ := readText_quoted (hq m.1) p (':' :: (quote m.2 ++ rest))
  obtain ⟨p₂, hvalue⟩ := readValue_quoted (hq m.2) (p₁.behind ':') rest depth
  have hcolon : readColon ⟨':' :: (quote m.2 ++ rest), p₁⟩ = .ok ((), ⟨quote m.2 ++ rest, p₁.behind ':'⟩) := by
    unfold readColon
    rw [skipBlanks_cons (by decide)]
    rfl
  refine ⟨p₂, ?_⟩
  rw [readMembers, hseek, memberChars_append]
  simp only [Except.bind, ↓reduceIte, hkey, hcolon, hvalue]
  rfl

/-- The members behind the first one are read as they were written. -/
theorem readMembers_further (depth : Nat) (members : List (String × String)) (done : List (String × Json))
    (hdone : done.isEmpty = false) {n : Nat} (hn : (furtherChars quote members).length ≤ n) (p : Place)
    (rest : List Char) : ∃ p', readMembers (readValue depth) n done ⟨furtherChars quote members ++ rest, p⟩ =
      .ok (.object (done.reverse ++ members.map textMember), ⟨rest, p'⟩) := by
  induction members generalizing done n p with
  | nil =>
    cases n with
    | zero => simp [furtherChars] at hn
    | succ n =>
      have hseek : seekKey false ⟨'}' :: rest, p⟩ = .ok (false, ⟨'}' :: rest, p⟩) := by
        unfold seekKey
        rw [skipBlanks_cons (by decide)]
        rfl
      refine ⟨p.behind '}', ?_⟩
      rw [furtherChars, List.singleton_append, readMembers, hdone, hseek]
      simp [Except.bind, Cursor.next]
  | cons m members ih =>
    rw [furtherChars, List.cons_append, List.length_cons, List.length_append] at hn
    cases n with
    | zero => omega
    | succ n =>
      let left := furtherChars quote members ++ rest
      have hseek : seekKey done.isEmpty ⟨',' :: (memberChars quote m ++ left), p⟩ =
          .ok (true, ⟨memberChars quote m ++ left, p.behind ','⟩) := by
        rw [hdone, memberChars_append]
        exact seekKey_further (hq m.1) p _
      obtain ⟨p₁, hmember⟩ := readMembers_member hq depth n hseek
      obtain ⟨p₂, hfurther⟩ := ih (textMember m :: done) rfl (n := n) (by omega) p₁
      refine ⟨p₂, ?_⟩
      rw [furtherChars, List.cons_append, List.cons_append, List.append_assoc, hmember, hfurther]
      simp

/-- **An object of texts on a line of its own is read back**, its members in their order. -/
theorem read_object (m : String × String) (members : List (String × String)) :
    read (String.ofList ('{' :: memberChars quote m ++ furtherChars quote members ++ ['\n'])) =
      .ok (.object ((m :: members).map textMember)) := by
  let body := memberChars quote m ++ (furtherChars quote members ++ ['\n'])
  let c : Cursor := ⟨'{' :: body, .start⟩
  have hstart : Cursor.ofText
      (String.ofList ('{' :: memberChars quote m ++ furtherChars quote members ++ ['\n'])) = c := by
    simp [Cursor.ofText, c, body]
  have hvalue : readValue maxDepth c = readMembers (readValue 126) (body.length + 1) [] c.next := by
    rw [maxDepth, readValue, skipBlanks_cons (by decide)]
    rfl
  have hseek : seekKey true c.next = .ok (true, c.next) := by
    have hnext : c.next =
        ⟨quote m.1 ++ ':' :: (quote m.2 ++ (furtherChars quote members ++ ['\n'])), c.next.place⟩ := by
      simp [c, body, Cursor.next, memberChars]
    rw [hnext]
    exact seekKey_first (hq m.1) _ _
  -- the text is longer than its members are many
  have hlength : (furtherChars quote members).length ≤ body.length := by
    simp only [body, List.length_append]
    omega
  obtain ⟨p₁, hmember⟩ := readMembers_member hq 126 body.length (show seekKey [].isEmpty c.next = _ from hseek)
  obtain ⟨p₂, hfurther⟩ := readMembers_further hq 126 members [textMember m] rfl hlength p₁ ['\n']
  have hfinish : skipBlanks ⟨['\n'], p₂⟩ = ⟨[], p₂.behind '\n'⟩ := rfl
  rw [read, hstart, hvalue, hmember, hfurther]
  simp [Except.bind, finish, hfinish]

end Objects

end ShipManifest.Json

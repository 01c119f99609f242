import ShipManifest.Json.Number

/-!
# Reading JSON

The reader takes a text apart from left to right and stops at the first fault. Blanks are the space, the tab, the line
feed and the carriage return. Lists and objects nest up to a depth of 127.

A lone surrogate escape is a fault, so the texts that come out are Unicode texts.
-/

namespace ShipManifest.Json

/-- The cursor behind the blanks that come next. -/
def skipBlanks (c : Cursor) : Cursor :=
  go c.rest c.place
where
  /-- Walks over blanks. -/
  go : List Char → Place → Cursor
    | [], p => ⟨[], p⟩
    | x :: xs, p => if x = ' ' ∨ x = '\n' ∨ x = '\t' ∨ x = '\r' then go xs (p.behind x) else ⟨x :: xs, p⟩

/-! ## Words and texts -/

/-- Reads the characters of a word one by one. -/
def readWord (value : Json) : List Char → Cursor → Reading Json
  | [], c => .ok (value, c)
  | w :: ws, c =>
    match c.rest with
    | [] => .error (c.faultHere .endInValue)
    | x :: _ => if x = w then readWord value ws c.next else .error (c.faultAhead .expectedWord)

/-- The value of a hexadecimal digit. -/
def hexValue? (c : Char) : Option Nat :=
  if c.isDigit then some (c.toNat - '0'.toNat)
  else if 'a' ≤ c ∧ c ≤ 'f' then some (c.toNat - 'a'.toNat + 10)
  else if 'A' ≤ c ∧ c ≤ 'F' then some (c.toNat - 'A'.toNat + 10)
  else none

/-- The value of four hexadecimal digits. -/
def hexValue4? (a b c d : Char) : Option Nat := do
  let a ← hexValue? a
  let b ← hexValue? b
  let c ← hexValue? c
  let d ← hexValue? d
  return ((a * 16 + b) * 16 + c) * 16 + d

/-- The fault of an escape whose four digits are not there: the text ends within four bytes, or one is no digit. -/
def hexFault (p : Place) (cs : List Char) : Fault :=
  if ((cs.take 4).map Char.utf8Size).foldr (· + ·) 0 < 4 then ⟨.endInText, p.behindAll cs⟩
  else ⟨.invalidEscape, p.behindBytes 4 cs⟩

/-- The character that a letter behind a backslash stands for. -/
def escaped? : Char → Option Char
  | '"' => some '"'
  | '\\' => some '\\'
  | '/' => some '/'
  | 'b' => some '\x08'
  | 'f' => some '\x0c'
  | 'n' => some '\n'
  | 'r' => some '\r'
  | 't' => some '\t'
  | _ => none

/-- Reads a text from behind its opening quote; `done` holds what was read, last character first. -/
def readChars (done : List Char) (p : Place) : List Char → Reading String
  | [] => .error ⟨.endInText, p⟩
  | '"' :: cs => .ok (String.ofList done.reverse, ⟨cs, p.behind '"'⟩)
  | ['\\'] => .error ⟨.endInText, p.behind '\\'⟩
  | '\\' :: 'u' :: cs =>
    let p := (p.behind '\\').behind 'u'
    match cs with
    | a :: b :: c :: d :: cs =>
      match hexValue4? a b c d with
      | none => .error (hexFault p (a :: b :: c :: d :: cs))
      | some n =>
        let p := p.behindAll [a, b, c, d]
        if 0xDC00 ≤ n ∧ n ≤ 0xDFFF then .error ⟨.loneSurrogate, p⟩
        else if n < 0xD800 ∨ 0xDBFF < n then readChars (Char.ofNat n :: done) p cs
        else match cs with
          | [] => .error ⟨.endInText, p⟩
          | '\\' :: [] => .error ⟨.endInText, p.behind '\\'⟩
          | '\\' :: 'u' :: cs =>
            let p := (p.behind '\\').behind 'u'
            match cs with
            | e :: f :: g :: h :: cs =>
              match hexValue4? e f g h with
              | none => .error (hexFault p (e :: f :: g :: h :: cs))
              | some m =>
                let p := p.behindAll [e, f, g, h]
                if m < 0xDC00 ∨ 0xDFFF < m then .error ⟨.loneSurrogate, p⟩
                else readChars (Char.ofNat (0x10000 + (n - 0xD800) * 0x400 + (m - 0xDC00)) :: done) p cs
            | cs => .error (hexFault p cs)
          | '\\' :: x :: _ => .error ⟨.halfSurrogatePair, (p.behind '\\').peek [x]⟩
          | x :: _ => .error ⟨.halfSurrogatePair, p.peek [x]⟩
    | cs => .error (hexFault p cs)
  | '\\' :: x :: cs =>
    match escaped? x with
    | some y => readChars (y :: done) ((p.behind '\\').behind x) cs
    | none => .error ⟨.invalidEscape, (p.behind '\\').peek [x]⟩
  | x :: cs =>
    if x.toNat < 0x20 then .error ⟨.controlCharacter, p.behind x⟩ else readChars (x :: done) (p.behind x) cs

/-- Reads a text from its opening quote on. -/
def readText (c : Cursor) : Reading String :=
  readChars [] c.next.place c.next.rest

/-! ## Lists and objects -/

/-- Reads the items of a list from behind its opening bracket or from behind an item. The number of characters bounds
the number of items. -/
def readItems (item : Cursor → Reading Json) : Nat → List Json → Cursor → Reading Json
  | 0, _, c => .error (c.faultHere .endInList)
  | n + 1, done, c =>
    let c := skipBlanks c
    match c.rest with
    | [] => .error (c.faultAhead .endInList)
    | ']' :: _ => .ok (.list done.reverse, c.next)
    | x :: _ =>
      if done.isEmpty then
        (item c).bind fun (value, c) => readItems item n [value] c
      else if x = ',' then
        let c := skipBlanks c.next
        match c.rest with
        | [] => .error (c.faultAhead .endInValue)
        | ']' :: _ => .error (c.faultAhead .trailingComma)
        | _ => (item c).bind fun (value, c) => readItems item n (value :: done) c
      else .error (c.faultAhead .expectedListEnd)

/-- Reads the colon behind a key. -/
def readColon (c : Cursor) : Reading Unit :=
  let c := skipBlanks c
  match c.rest with
  | [] => .error (c.faultAhead .endInObject)
  | ':' :: _ => .ok ((), c.next)
  | _ => .error (c.faultAhead .expectedColon)

/-- Goes to the next key of an object, if there is one: from behind the opening brace if `first`, else from behind a
member. The cursor is then at the key's quote, or at the closing brace. -/
def seekKey (first : Bool) (c : Cursor) : Reading Bool :=
  let c := skipBlanks c
  match c.rest with
  | [] => .error (c.faultAhead .endInObject)
  | '}' :: _ => .ok (false, c)
  | x :: _ =>
    if first then
      if x = '"' then .ok (true, c) else .error (c.faultAhead .keyNotText)
    else if x = ',' then
      let c := skipBlanks c.next
      match c.rest with
      | [] => .error (c.faultAhead .endInValue)
      | '"' :: _ => .ok (true, c)
      | '}' :: _ => .error (c.faultAhead .trailingComma)
      | _ => .error (c.faultAhead .keyNotText)
    else .error (c.faultAhead .expectedObjectEnd)

/-- Reads the members of an object from behind its opening brace or from behind a member. The number of characters
bounds the number of members. -/
def readMembers (item : Cursor → Reading Json) : Nat → List (String × Json) → Cursor → Reading Json
  | 0, _, c => .error (c.faultHere .endInObject)
  | n + 1, done, c =>
    (seekKey done.isEmpty c).bind fun (more, c) =>
      if more then
        (readText c).bind fun (key, c) =>
          (readColon c).bind fun (_, c) =>
            (item c).bind fun (value, c) => readMembers item n ((key, value) :: done) c
      else .ok (.object done.reverse, c.next)

/-! ## Values -/

/-- How deep lists and objects may nest. -/
def maxDepth : Nat := 127

/-- Reads a value behind blanks, with lists and objects nested up to the depth. -/
def readValue (depth : Nat) (c : Cursor) : Reading Json :=
  let c := skipBlanks c
  match c.rest with
  | [] => .error (c.faultAhead .endInValue)
  | 'n' :: _ => readWord .null ['u', 'l', 'l'] c.next
  | 't' :: _ => readWord (.boolean true) ['r', 'u', 'e'] c.next
  | 'f' :: _ => readWord (.boolean false) ['a', 'l', 's', 'e'] c.next
  | '"' :: _ => (readText c).map fun (s, c) => (.text s, c)
  | '[' :: _ =>
    match depth with
    | 0 => .error (c.faultAhead .tooDeep)
    | depth + 1 => readItems (readValue depth) c.rest.length [] c.next
  | '{' :: _ =>
    match depth with
    | 0 => .error (c.faultAhead .tooDeep)
    | depth + 1 => readMembers (readValue depth) c.rest.length [] c.next
  | x :: _ => if x.isDigit ∨ x = '-' then readNumber c else .error (c.faultAhead .expectedValue)

/-- Refuses anything but blanks behind a value. -/
def finish {α : Type} (result : α × Cursor) : Except Fault α :=
  let c := skipBlanks result.2
  if c.rest = [] then .ok result.1 else .error (c.faultAhead .trailingCharacters)

/-- Reads a text that is one value, with the members of objects as they are written. -/
def read (s : String) : Except Fault Json :=
  (readValue maxDepth (.ofText s)).bind finish

/-- Reads a text that is one value. -/
def parse (s : String) : Except Fault Json :=
  (read s).map settle

end ShipManifest.Json

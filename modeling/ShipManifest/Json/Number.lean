import ShipManifest.Json.Fault

/-!
# Reading numbers

A number without fraction and exponent is an integer if it lies below 2⁶⁴ and not below -2⁶³; minus zero is no integer.
Any other number is binary64. Its digits are taken into a 64-bit significand as long as they fit; digits of the integer
part that do not fit raise the exponent, and those of the fraction are dropped. The significand is then multiplied by
the power of ten, or divided by it, as binary64 numbers, so the result is not always the one nearest to what is
written.
-/

namespace ShipManifest.Json

/-- What is left to read and where it stands. -/
structure Cursor where
  rest : List Char
  place : Place
  deriving DecidableEq

/-- A result and what is left behind it, or the fault that was met first. -/
abbrev Reading (α : Type) := Except Fault (α × Cursor)

namespace Cursor

/-- The start of a text. -/
def ofText (s : String) : Cursor :=
  ⟨s.toList, .start⟩

/-- The cursor behind its next character. -/
def next (c : Cursor) : Cursor :=
  match c.rest with
  | [] => c
  | x :: rest => ⟨rest, c.place.behind x⟩

/-- A fault about the next character. -/
def faultAhead (c : Cursor) (cause : Cause) : Fault :=
  ⟨cause, c.place.peek c.rest⟩

/-- A fault about what was read. -/
def faultHere (c : Cursor) (cause : Cause) : Fault :=
  ⟨cause, c.place⟩

/-- The cursor behind characters of one byte each. -/
def skip (c : Cursor) (n : Nat) : Cursor :=
  ⟨c.rest.drop n, ⟨c.place.line, c.place.column + n⟩⟩

end Cursor

/-! ## Significands and powers of ten -/

/-- The value of a decimal digit. -/
def digitValue (c : Char) : Nat :=
  c.toNat - '0'.toNat

/-- Takes digits into the significand as long as it fits 64 bits: the significand, how many were taken, the rest. -/
def absorb (significand count : Nat) : List Char → Nat × Nat × List Char
  | [] => (significand, count, [])
  | c :: cs =>
    if c.isDigit ∧ significand * 10 + digitValue c < Nat.pow 2 64 then
      absorb (significand * 10 + digitValue c) (count + 1) cs
    else (significand, count, c :: cs)

/-- The magnitude of a power of ten, up to 308. -/
def powerOfTen (exponent : Nat) : Nat :=
  Binary64.nearestRank (Nat.pow 10 exponent) 1

/-- The magnitude divided by a power of ten, in steps of 308 places. -/
def scaleDown (magnitude exponent : Nat) : Nat :=
  if h : exponent ≤ 308 then Binary64.divMagnitude magnitude (powerOfTen exponent)
  else if magnitude = 0 then 0
  else scaleDown (Binary64.divMagnitude magnitude (powerOfTen 308)) (exponent - 308)
termination_by exponent

/-- The magnitude of a significand and a power of ten, unless it is too large. -/
def scaled? (significand : Nat) (exponent : Int) : Option Nat :=
  let magnitude := Binary64.nearestRank significand 1
  match exponent with
  | .ofNat e =>
    if significand = 0 then some 0
    else if e ≤ 308 then
      let product := Binary64.mulMagnitude magnitude (powerOfTen e)
      if product < rankLimit then some product else none
    else none
  | .negSucc e => some (scaleDown magnitude (e + 1))

/-! ## The parts of a number -/

/-- The binary64 number of its parts, read up to the cursor. -/
def realOfParts (negative : Bool) (significand : Nat) (exponent : Int) (c : Cursor) : Reading Json :=
  match scaled? significand exponent with
  | some magnitude => .ok (.real (Binary64.ofRank negative magnitude), c)
  | none => .error (c.faultHere .numberOutOfRange)

/-- Takes exponent digits while they fit 31 bits: the exponent, how many were taken, and whether the next one would not
fit. -/
def absorbExponent (exponent count : Nat) : List Char → Nat × Nat × Bool
  | [] => (exponent, count, false)
  | c :: cs =>
    if c.isDigit then
      if exponent * 10 + digitValue c < Nat.pow 2 31 then absorbExponent (exponent * 10 + digitValue c) (count + 1) cs
      else (exponent, count, true)
    else (exponent, count, false)

/-- Whether the exponent has a minus sign, and the cursor behind its sign. -/
def exponentSign (c : Cursor) : Bool × Cursor :=
  match c.rest with
  | '+' :: _ => (false, c.skip 1)
  | '-' :: _ => (true, c.skip 1)
  | _ => (false, c)

/-- Reads an exponent from behind its sign to the end of the number. -/
def exponentDigits (negative : Bool) (significand : Nat) (start : Int) (down : Bool) (c : Cursor) : Reading Json :=
  match c.rest with
  | [] => .error (c.faultHere .endInValue)
  | d :: _ =>
    if !d.isDigit then .error (c.faultAhead .invalidNumber)
    else
      match absorbExponent 0 0 c.rest with
      | (exponent, count, false) =>
        realOfParts negative significand (if down then start - exponent else start + exponent) (c.skip count)
      | (_, count, true) =>
        if significand ≠ 0 ∧ !down then .error ((c.skip (count + 1)).faultHere .numberOutOfRange)
        else
          .ok (.real (Binary64.ofRank negative 0), c.skip (c.rest.takeWhile Char.isDigit).length)

/-- Reads from the letter `e` to the end of the number. -/
def readExponent (negative : Bool) (significand : Nat) (start : Int) (c : Cursor) : Reading Json :=
  let (down, c) := exponentSign (c.skip 1)
  exponentDigits negative significand start down c

/-- Reads an exponent if one follows. -/
def readAfterDigits (negative : Bool) (significand : Nat) (exponent : Int) (c : Cursor) : Reading Json :=
  match c.rest with
  | 'e' :: _ | 'E' :: _ => readExponent negative significand exponent c
  | _ => realOfParts negative significand exponent c

/-- Reads from the point to the end of the number. -/
def readFraction (negative : Bool) (significand : Nat) (start : Int) (c : Cursor) : Reading Json :=
  let c := c.skip 1
  let digits := c.rest.takeWhile Char.isDigit
  if digits = [] then
    .error (c.faultAhead (if c.rest = [] then .endInValue else .invalidNumber))
  else
    let (significand, count, _) := absorb significand 0 digits
    readAfterDigits negative significand (start - count) (c.skip digits.length)

/-- What follows the integer part, whose digits did not all fit the significand. -/
def readLong (negative : Bool) (significand : Nat) (exponent : Nat) (c : Cursor) : Reading Json :=
  match c.rest with
  | '.' :: _ => readFraction negative significand exponent c
  | _ => readAfterDigits negative significand exponent c

/-- The number that the significand is alone. -/
def shortValue (negative : Bool) (significand : Nat) : Json :=
  if !negative then .integer significand
  else if significand = 0 ∨ Nat.pow 2 63 < significand then
    .real (Binary64.ofRank true (Binary64.nearestRank significand 1))
  else .integer (-(significand : Int))

/-- What follows the integer part, whose digits are the significand. -/
def readShort (negative : Bool) (significand : Nat) (c : Cursor) : Reading Json :=
  match c.rest with
  | '.' :: _ => readFraction negative significand 0 c
  | 'e' :: _ | 'E' :: _ => readExponent negative significand 0 c
  | _ => .ok (shortValue negative significand, c)

/-- Reads a number from its first digit on. -/
def readDigits (negative : Bool) (c : Cursor) : Reading Json :=
  match c.rest with
  | [] => .error (c.faultHere .endInValue)
  | '0' :: d :: _ =>
    if d.isDigit then .error ((c.skip 1).faultAhead .invalidNumber) else readShort negative 0 (c.skip 1)
  | ['0'] => readShort negative 0 (c.skip 1)
  | d :: _ =>
    if !d.isDigit then .error (c.faultAhead .invalidNumber)
    else
      let (significand, count, rest) := absorb 0 0 c.rest
      let dropped := rest.takeWhile Char.isDigit
      if dropped = [] then readShort negative significand (c.skip count)
      else readLong negative significand dropped.length (c.skip (count + dropped.length))

/-- Reads a number from its sign or its first digit on. -/
def readNumber (c : Cursor) : Reading Json :=
  match c.rest with
  | '-' :: _ => readDigits true (c.skip 1)
  | _ => readDigits false c

end ShipManifest.Json

/-!
# Binary64 numbers

A binary64 number is not-a-number, an infinity, or finite. The finite magnitudes, in increasing order, are numbered by
their *rank*: zero has rank 0, the least positive number has rank 1, and so on. The rank is also the number's word
without its sign bit. Every finite magnitude is a multiple of the least positive one, 2⁻¹⁰⁷⁴, and `units` says which.

Two words stand for the same value here exactly if they are equal or both not-a-number; zero keeps its sign.
-/

namespace ShipManifest

/-- How many finite magnitudes there are, which is also where infinity stands behind them. -/
def rankLimit : Nat := 0x7FF0000000000000

/-- A binary64 number; there is one not-a-number. -/
inductive Binary64 where
  | nan
  | infinite (negative : Bool)
  | finite (negative : Bool) (rank : Fin rankLimit)
  deriving DecidableEq

namespace Binary64

/-- The magnitude of a rank as a multiple of 2⁻¹⁰⁷⁴. From rank 2⁵² on, the low 52 bits are the fraction of a number
between two powers of two. -/
def units (rank : Nat) : Nat :=
  if rank < Nat.pow 2 52 then rank else (Nat.pow 2 52 + rank % Nat.pow 2 52) * Nat.pow 2 (rank / Nat.pow 2 52 - 1)

/-- The number with this sign and rank; a rank behind the finite ones is an infinity. -/
def ofRank (negative : Bool) (rank : Nat) : Binary64 :=
  if h : rank < rankLimit then finite negative ⟨rank, h⟩ else infinite negative

/-- The number of a 64-bit word. -/
def ofWord (word : UInt64) : Binary64 :=
  let rank := word.toNat % Nat.pow 2 63
  if rank ≤ rankLimit then ofRank (Nat.pow 2 63 ≤ word.toNat) rank else nan

/-- The word of a number; not-a-number has the quiet word with an otherwise empty payload. -/
def toWord : Binary64 → UInt64
  | nan => 0x7FF8000000000000
  | infinite negative => UInt64.ofNat (negative.toNat * Nat.pow 2 63 + rankLimit)
  | finite negative rank => UInt64.ofNat (negative.toNat * Nat.pow 2 63 + rank)

/-- Whether the number is neither infinite nor not-a-number. -/
def isFinite : Binary64 → Bool
  | finite _ _ => true
  | _ => false

/-- Where the number stands in the order of numbers, the two zeros at one place. Not-a-number stands nowhere. -/
def place? : Binary64 → Option Int
  | nan => none
  | infinite negative => some (if negative then -(rankLimit : Int) else rankLimit)
  | finite negative rank => some (if negative then -(rank.val : Int) else rank.val)

/-- Whether `x` is less than `y`; false if either is not-a-number. -/
def less (x y : Binary64) : Bool :=
  match x.place?, y.place? with
  | some i, some j => i < j
  | _, _ => false

@[simp] theorem less_nan_left {y : Binary64} : less nan y = false := rfl

@[simp] theorem less_nan_right {x : Binary64} : less x nan = false := by
  cases x <;> rfl

end Binary64

end ShipManifest

/-!
# One text inside another

`occursIn v cs` looks for `v` at every place of `cs`; the empty text occurs everywhere.
-/

namespace ShipManifest.Text

/-- Whether `v` occurs in the text as a contiguous part. -/
def occursIn (v : List Char) : List Char → Bool
  | [] => v.isEmpty
  | c :: cs => v.isPrefixOf (c :: cs) || occursIn v cs

/-- The search finds exactly the infixes. -/
theorem occursIn_iff {v cs : List Char} : occursIn v cs = true ↔ v <:+: cs := by
  induction cs with
  | nil => simp [occursIn]
  | cons c cs ih => simp [occursIn, ih, List.infix_cons_iff]

end ShipManifest.Text

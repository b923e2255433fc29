/-!
# Sets of characters given by ranges

A character property is a list of closed ranges of code points. The tables of the modules beside
this one are lists of this kind, in increasing order.
-/

namespace PackageRisk.Text

/-- Closed ranges of code points, as pairs of the first and the last. -/
abbrev Ranges := List (Nat × Nat)

/-- Membership of a code point in one of the ranges. -/
def Ranges.covers (ranges : Ranges) (code : Nat) : Bool :=
  ranges.any fun range ↦ range.1 ≤ code && code ≤ range.2

/-- A code point is covered exactly when some range of the list holds it. -/
theorem Ranges.covers_iff {ranges : Ranges} {code : Nat} :
    ranges.covers code = true ↔ ∃ range ∈ ranges, range.1 ≤ code ∧ code ≤ range.2 := by
  simp [covers]

end PackageRisk.Text

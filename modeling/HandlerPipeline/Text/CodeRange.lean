/-!
# Sets of code points

A property of characters is given as a list of closed ranges of code points, in ascending order
and disjoint. Membership is a plain scan, so the kernel can evaluate it at a concrete character.
-/

namespace HandlerPipeline.Text

/-- Closed ranges of code points. -/
abbrev CodeRanges := List (Nat × Nat)

/-- The character lies in one of the ranges. -/
def CodeRanges.has (ranges : CodeRanges) (c : Char) : Bool :=
  ranges.any fun r => decide (r.1 ≤ c.toNat) && decide (c.toNat ≤ r.2)

/-- Membership in the ranges, as a statement about them. -/
theorem CodeRanges.has_iff {ranges : CodeRanges} {c : Char} :
    ranges.has c = true ↔ ∃ r ∈ ranges, r.1 ≤ c.toNat ∧ c.toNat ≤ r.2 := by
  simp [CodeRanges.has]

end HandlerPipeline.Text

/-!
# Ranges of code points

A class of characters is data: a list of ranges of code points, each with both of its ends. One
function asks whether a range holds a code point.
-/

namespace RpcGuard.Text

/-- Code points, as ranges with both ends. -/
abbrev CodeRanges := List (Nat × Nat)

/-- One of the ranges holds the code point. -/
def CodeRanges.holds (ranges : CodeRanges) (n : Nat) : Bool :=
  ranges.any fun r => r.1 ≤ n && n ≤ r.2

/-- A code point is held where it lies between the ends of a range. -/
theorem CodeRanges.holds_iff {ranges : CodeRanges} {n : Nat} :
    ranges.holds n = true ↔ ∃ r ∈ ranges, r.1 ≤ n ∧ n ≤ r.2 := by
  simp [CodeRanges.holds, List.any_eq_true]

end RpcGuard.Text

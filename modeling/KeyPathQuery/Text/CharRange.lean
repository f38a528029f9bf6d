/-!
A class of characters given as a table of ranges of code points, both ends included, and the
test whether a character belongs to it.

Main statement: `inRanges_iff` says that the test looks for a range that holds the character.
-/

set_option autoImplicit false
set_option relaxedAutoImplicit false

namespace KeyPathQuery.Text

/-- Whether one of the ranges holds a character. -/
def inRanges (ranges : List (Nat × Nat)) (c : Char) : Bool :=
  ranges.any fun (first, last) ↦ decide (first ≤ c.toNat) && decide (c.toNat ≤ last)

theorem inRanges_iff {ranges : List (Nat × Nat)} {c : Char} :
    inRanges ranges c = true ↔ ∃ range ∈ ranges, range.1 ≤ c.toNat ∧ c.toNat ≤ range.2 := by
  simp [inRanges]

end KeyPathQuery.Text

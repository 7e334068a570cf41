/-!
# Ranges of characters

A character property is a list of ranges of code points, first and last included.
-/

namespace RecordCheck.Text

/-- The code points from the first to the second, both included. -/
abbrev CharRange := Nat × Nat

/-- Whether the character lies in one of the ranges. -/
def inRanges (ranges : List CharRange) (c : Char) : Bool :=
  ranges.any fun range => range.1 ≤ c.toNat && c.toNat ≤ range.2

theorem inRanges_iff (ranges : List CharRange) (c : Char) :
    inRanges ranges c = true ↔ ∃ range ∈ ranges, range.1 ≤ c.toNat ∧ c.toNat ≤ range.2 := by
  simp [inRanges]

end RecordCheck.Text

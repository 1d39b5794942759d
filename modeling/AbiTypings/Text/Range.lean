/-!
# Ranges of code points

Character classes are kept as closed ranges of code points, in ascending order. A class is read off
its table by one linear search, which the kernel can evaluate on closed characters.

The tables of the character classes follow version 14 of the Unicode character database.
-/

namespace AbiTypings.Text

/-- Whether a code point lies in one of the closed ranges. -/
def inRanges (ranges : List (Nat × Nat)) (n : Nat) : Bool :=
  ranges.any fun r ↦ r.1 ≤ n && n ≤ r.2

theorem inRanges_iff (ranges : List (Nat × Nat)) (n : Nat) :
    inRanges ranges n = true ↔ ∃ r ∈ ranges, r.1 ≤ n ∧ n ≤ r.2 := by
  simp [inRanges]

end AbiTypings.Text

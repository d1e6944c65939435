/-!
# Ranges of code points

A character class of the Unicode standard is written as a list of ranges, first and last code
point, in ascending order.
-/

namespace ReleaseVersion.Text

/-- A class of code points: ranges with both ends included. -/
abbrev Ranges :=
  List (Nat × Nat)

/-- Whether the code point lies in one of the ranges. -/
def Ranges.has (ranges : Ranges) (n : Nat) : Bool :=
  ranges.any fun range => range.1 ≤ n && n ≤ range.2

theorem Ranges.has_iff {ranges : Ranges} {n : Nat} :
    ranges.has n = true ↔ ∃ range ∈ ranges, range.1 ≤ n ∧ n ≤ range.2 := by
  simp [Ranges.has]

end ReleaseVersion.Text

/-! Sets of characters given by the ranges of their code points. -/

namespace SearchPlan.Text

/-- Whether a code point lies in one of the ranges, both ends of which belong to it. -/
def inRanges (ranges : List (Nat × Nat)) (n : Nat) : Bool :=
  ranges.any fun (lo, hi) => lo ≤ n && n ≤ hi

end SearchPlan.Text

/-!
Character classes given by ranges of code points.
-/

namespace ChatFlow.Text

/-- The character lies in one of the ranges; both ends of a range belong to it. -/
def inRanges (ranges : List (Nat × Nat)) (c : Char) : Bool :=
  ranges.any fun r => r.1 ≤ c.toNat && c.toNat ≤ r.2

end ChatFlow.Text

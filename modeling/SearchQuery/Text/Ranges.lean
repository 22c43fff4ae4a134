/-!
# Tables of code points

Classes of characters that no short rule describes are listed as closed intervals of code
points, in increasing order. A class keeps a rule of its own for the characters below 128.
-/

namespace SearchQuery.Text

/-- Whether one of the intervals holds `n`. -/
def inRanges (table : List (Nat × Nat)) (n : Nat) : Bool :=
  table.any fun r => decide (r.1 ≤ n) && decide (n ≤ r.2)

end SearchQuery.Text

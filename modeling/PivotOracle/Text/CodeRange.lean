/-!
# Ranges of code points

A property of characters is held as an ascending list of closed ranges of code points.
-/

namespace PivotOracle

/-- Whether `n` lies in one of the ascending closed ranges. -/
def inCodeRanges (n : Nat) : List (Nat × Nat) → Bool
  | [] => false
  | (low, high) :: rest => if n < low then false else n ≤ high || inCodeRanges n rest

end PivotOracle

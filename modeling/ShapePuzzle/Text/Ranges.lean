/-!
# Sets of characters as sorted ranges
-/
namespace ShapePuzzle

/-- Whether the code lies in one of the ranges, which are sorted and both ends of which belong. -/
def inRanges (n : Nat) : List (Nat × Nat) → Bool
  | [] => false
  | (first, last) :: rest => if n < first then false else n ≤ last || inRanges n rest

end ShapePuzzle

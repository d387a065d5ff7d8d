/-!
Character properties as sorted tables of code point ranges.
-/

namespace ChatHost.Text

/-- Whether a code point lies in one of the ranges, which are in increasing order. -/
def inRanges : List (Nat × Nat) → Nat → Bool
  | [], _ => false
  | (low, high) :: rest, c => if c < low then false else c ≤ high || inRanges rest c

end ChatHost.Text

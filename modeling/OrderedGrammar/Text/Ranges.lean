/-!
# Sets of characters as ranges of code points

A property of characters that is given by a table is a list of closed ranges of code points in
ascending order, so that a search ends at the first range past the code point.
-/

namespace OrderedGrammar.Text

/-- Whether `n` lies in one of the closed ranges, which are in ascending order. -/
def inRanges : List (Nat × Nat) → Nat → Bool
  | [], _ => false
  | (first, last) :: ranges, n =>
    if n < first then false else if n ≤ last then true else inRanges ranges n

end OrderedGrammar.Text

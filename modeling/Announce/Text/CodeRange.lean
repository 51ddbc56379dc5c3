/-!
# Ranges of code points

A character property is a table of code point ranges in ascending order.
-/

namespace Announce.Text

/-- Whether a code point lies in one of the ranges, ends included. -/
def inRanges (ranges : List (Nat × Nat)) (code : Nat) : Bool :=
  ranges.any fun (first, last) => first ≤ code && code ≤ last

end Announce.Text

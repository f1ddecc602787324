/-!
# Code point ranges

A property of characters is given by the list of its code point ranges, each with its first and its last code point,
in ascending order; `inRanges` reads such a list.
-/

namespace Formula.Unicode

/-- Whether the code point lies in one of the ranges; it stops at the first range that starts above it. -/
def inRanges (codePoint : Nat) : List (Nat × Nat) → Bool
  | [] => false
  | (first, last) :: rest =>
    if codePoint < first then false else decide (codePoint ≤ last) || inRanges codePoint rest

end Formula.Unicode

/-!
# Ranges of characters

A character class of the Unicode standard is a list of code point ranges in ascending order.
-/
namespace PropertyFiles.Text

/-- Whether a code point lies in one of the ranges, which are given in ascending order. -/
def inRanges : List (Nat × Nat) → Nat → Bool
  | [], _ => false
  | (first, last) :: rest, n =>
    if n < first then false else n ≤ last || inRanges rest n

end PropertyFiles.Text

/-!
# Ranges of code points

Tables of characters are lists of ranges of code points.

* `Text.inRanges` — whether a character is in one of some ranges.
-/

namespace ComponentSurvey

namespace Text

/-- Whether a character is in one of some ranges, whose two ends belong to them. -/
def inRanges (ranges : List (Nat × Nat)) (c : Char) : Bool :=
  ranges.any fun range => range.1 ≤ c.toNat && c.toNat ≤ range.2

end Text

end ComponentSurvey

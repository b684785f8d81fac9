/-!
# Tables of character ranges

A property of characters is a list of ranges of code points, both ends included.
-/

namespace SessionReplay.Text

/-- Whether a character is in one of the ranges. -/
def inRanges (ranges : List (Nat × Nat)) (c : Char) : Bool :=
  ranges.any fun r => r.1 ≤ c.toNat && c.toNat ≤ r.2

end SessionReplay.Text

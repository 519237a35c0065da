/-!
# Ranges of code points

A property of characters is kept as a list of ranges. `inRanges` looks a character up.
-/

namespace RepoSurvey.Text

/-- Whether a character's code point lies in one of the ranges, ends included. -/
def inRanges (ranges : List (Nat × Nat)) (c : Char) : Bool :=
  ranges.any fun r => r.1 ≤ c.toNat && c.toNat ≤ r.2

/-- Whether a character is one of the first 128. -/
def isAscii (c : Char) : Bool := c.toNat < 128

end RepoSurvey.Text

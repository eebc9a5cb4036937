/-!
# Character ranges

A class of characters is given by a table of inclusive ranges of code points.
`inRanges` is membership in the class.
-/

namespace Midrange.Text

/-- The code point of the character lies in one of the inclusive ranges. -/
def inRanges (ranges : Array (Nat × Nat)) (character : Char) : Bool :=
  ranges.any fun range =>
    range.1 ≤ character.toNat && character.toNat ≤ range.2

end Midrange.Text

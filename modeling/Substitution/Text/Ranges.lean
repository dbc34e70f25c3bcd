import Substitution.Text.Basic

/-!
# Ranges of code points

A property of characters is given as an array of ranges of code points, both ends included.
-/

namespace Substitution

namespace Text

/-- Does one of the ranges hold the code point? -/
def within (ranges : Array (Nat × Nat)) (code : Nat) : Bool :=
  ranges.any fun r => r.1 ≤ code && code ≤ r.2

end Text

end Substitution

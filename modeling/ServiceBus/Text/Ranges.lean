set_option autoImplicit false

/-! # Sets of characters by ranges

A property of characters is written down as the list of the ranges of code points that have it,
both ends included. -/

namespace ServiceBus.Text

/-- Whether the code point of `c` lies in one of the ranges. -/
def inRanges (ranges : List (Nat × Nat)) (c : Char) : Bool :=
  ranges.any fun r => r.1 ≤ c.toNat && c.toNat ≤ r.2

end ServiceBus.Text

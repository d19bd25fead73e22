/-! Tables of code points as ascending ranges, both ends included. -/

namespace Shopfront.Text

/-- Whether one of the ranges holds the number. -/
def withinRanges (n : Nat) : List (Nat × Nat) → Bool
  | [] => false
  | (lo, hi) :: rest => if n < lo then false else n ≤ hi || withinRanges n rest

end Shopfront.Text

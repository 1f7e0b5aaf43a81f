/-!
# Character ranges

A class of characters given by the ranges of its code points, in increasing order.
-/

namespace LangServer.Text

/-- A range of code points, both ends included. -/
abbrev Range := Nat × Nat

/-- Whether a code point lies in one of the ranges. -/
def inRanges (n : Nat) : List Range → Bool
  | [] => false
  | (lo, hi) :: rest => (lo ≤ n && n ≤ hi) || inRanges n rest

end LangServer.Text

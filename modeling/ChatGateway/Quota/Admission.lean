import ChatGateway.Numeral

/-!
# Admissions

A call is admitted under the limits of its key, or denied on the first axis
whose limit it would pass.  An admitted call holds a reservation until its
consumption is known.

## Main definitions

* `Dimension` — the axes, in the order in which they are checked.
* `Denial`, `Reservation`, `Admission` — the answers.
* `QuotaUsage` — what a key has consumed.
-/

namespace ChatGateway

/-- An axis on which a key may be limited. -/
inductive Dimension where
  | requests
  | tokens
  | budget
  deriving DecidableEq, Repr

/-- The name of the limit of an axis. -/
def Dimension.limitName : Dimension → String
  | requests => "max_requests_per_minute"
  | tokens => "max_tokens_per_minute"
  | budget => "budget_cents"

/-- A refusal.  It is no error: the next candidate is tried. -/
structure Denial where
  key : String
  dimension : Dimension
  limit : UInt64
  /-- What the key had consumed. -/
  current : UInt64
  /-- What the call would add. -/
  requested : UInt64
  deriving DecidableEq, Repr

/-- The digits of a word. -/
def wordText (n : UInt64) : String :=
  (Numeral.ofNat n.toNat).text

/-- The text of a refusal. -/
def Denial.message (d : Denial) : String :=
  "quota denied for key '" ++ d.key ++ "' on " ++ d.dimension.limitName ++ " ("
    ++ wordText d.current ++ " used + " ++ wordText d.requested ++ " requested > "
    ++ wordText d.limit ++ ")"

/-- What is held for an admitted call until it is settled. -/
structure Reservation where
  key : String
  /-- The window whose rates were charged. -/
  window : Int
  tokens : UInt64
  costCents : UInt64
  deriving DecidableEq, Repr

/-- The answer to a call that asks to be admitted. -/
inductive Admission where
  | allow (r : Reservation)
  | deny (d : Denial)
  deriving DecidableEq, Repr

/-- What a key has consumed: requests and tokens of a window, and the whole
spending. -/
structure QuotaUsage where
  requests : UInt64 := 0
  tokens : UInt64 := 0
  spentCents : UInt64 := 0
  deriving DecidableEq, Repr

end ChatGateway

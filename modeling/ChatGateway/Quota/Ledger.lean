import ChatGateway.Config.Description
import ChatGateway.Quota.Store
import ChatGateway.Quota.Window

/-!
# Ledgers

A ledger is a store together with the limits of each key.  The limits may be
exchanged while the counters stay.  The time of an operation names its window.

## Main definitions

* `Ledger.reserve`, `Ledger.record`, `Ledger.usage?` — the operations of a store, in
  the window of a time.
* `Ledger.withSpecs` — the same counters under other limits.
-/

namespace ChatGateway

/-- A store and the limits of each key. -/
structure Ledger where
  specs : Dict QuotaSpec := .empty
  store : QuotaStore := {}
  deriving DecidableEq, Inhabited

namespace Ledger

/-- The limits of a key; a key without limits of its own is unlimited. -/
def spec (l : Ledger) (key : String) : QuotaSpec :=
  (l.specs.get? key).getD .unlimited

/-- Ask to admit a call of an estimated size. -/
def reserve (l : Ledger) (now : Instant) (key : String) (tokens cost : UInt64) :
    Admission × Ledger :=
  let (answer, store) := l.store.reserve key (l.spec key) (windowOf now) tokens cost
  (answer, { l with store := store })

/-- Settle a call with what it consumed. -/
def record (l : Ledger) (now : Instant) (r : Reservation) (tokens cost : UInt64) : Ledger :=
  { l with store := l.store.reconcile r (windowOf now) tokens cost }

/-- What a key has consumed. -/
def usage? (l : Ledger) (now : Instant) (key : String) : Option QuotaUsage :=
  l.store.usage? key (windowOf now)

/-- The same counters under other limits. -/
def withSpecs (l : Ledger) (specs : Dict QuotaSpec) : Ledger :=
  { l with specs := specs }

/-- The description of a ledger shows the limits and not the counters. -/
def description (l : Ledger) : String :=
  Text.titledOpen "QuotaLedger" [("specs", describeQuotas l.specs)]

end Ledger

end ChatGateway

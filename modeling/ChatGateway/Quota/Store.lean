import ChatGateway.Config.Basic
import ChatGateway.Quota.Admission

/-!
# Quota stores

A store keeps the counters of every key it has seen.  The rates of a key belong
to its current window; they start over when a call arrives in a later window and
stay as they are for a call that is late.  Spending never starts over.

Admission checks every axis and then charges the estimate, or charges nothing.
Settling a call puts its actual consumption in place of the estimate, as far as
the window that was charged is still current.

## Main definitions

* `KeyState` — the counters of one key.
* `QuotaStore.reserve`, `QuotaStore.reconcile` — the two writes.
* `QuotaStore.usage?` — the read.
-/

namespace ChatGateway

/-- The counters of one key. -/
structure KeyState where
  /-- The current window. -/
  window : Int
  requests : UInt64 := 0
  tokens : UInt64 := 0
  spentCents : UInt64 := 0
  deriving DecidableEq, Repr

namespace KeyState

/-- Enter a window.  Only a later one becomes the current window and starts the
rates over. -/
def enter (s : KeyState) (window : Int) : KeyState :=
  if s.window < window then { s with window := window, requests := 0, tokens := 0 } else s

/-- The first axis whose limit a call would pass. -/
def denial? (s : KeyState) (key : String) (spec : QuotaSpec) (tokens cost : UInt64) :
    Option Denial :=
  let axis (dimension : Dimension) (limit : Option UInt64) (current requested : UInt64) :=
    limit.bind fun limit =>
      if limit < satAdd current requested then
        some (Denial.mk key dimension limit current requested)
      else none
  axis .requests spec.requestsPerMinute s.requests 1
    <|> axis .tokens spec.tokensPerMinute s.tokens tokens
    <|> axis .budget spec.budgetCents s.spentCents cost

/-- Charge a call with its estimate. -/
def charge (s : KeyState) (tokens cost : UInt64) : KeyState :=
  { s with
    requests := s.requests + 1
    tokens := satAdd s.tokens tokens
    spentCents := satAdd s.spentCents cost }

/-- Put actual consumption in place of a reservation.  Tokens that were charged to
a window that has passed are not taken back, for they are no longer counted. -/
def settle (s : KeyState) (r : Reservation) (tokens cost : UInt64) : KeyState :=
  { s with
    tokens := satAdd (if s.window = r.window then satSub s.tokens r.tokens else s.tokens) tokens
    spentCents := satAdd (satSub s.spentCents r.costCents) cost }

/-- What the counters show to a reader in a window: nothing of the rates once the
window has passed. -/
def usageIn (s : KeyState) (window : Int) : QuotaUsage :=
  if window ≤ s.window then ⟨s.requests, s.tokens, s.spentCents⟩ else ⟨0, 0, s.spentCents⟩

/-- A call is admitted when no axis that has a limit would pass it. -/
theorem denial?_eq_none_iff (s : KeyState) (key : String) (spec : QuotaSpec)
    (tokens cost : UInt64) :
    s.denial? key spec tokens cost = none ↔
      (∀ l, spec.requestsPerMinute = some l → satAdd s.requests 1 ≤ l) ∧
      (∀ l, spec.tokensPerMinute = some l → satAdd s.tokens tokens ≤ l) ∧
      (∀ l, spec.budgetCents = some l → satAdd s.spentCents cost ≤ l) := by
  obtain ⟨requests, tokens', budget⟩ := spec
  cases requests <;> cases tokens' <;> cases budget <;> simp [denial?, UInt64.not_lt]

/-- A refusal names the key that asked. -/
theorem key_of_denial? {s : KeyState} {key : String} {spec : QuotaSpec} {tokens cost : UInt64}
    {d : Denial} (h : s.denial? key spec tokens cost = some d) : d.key = key := by
  simp only [denial?, Option.orElse_eq_orElse, Option.orElse_eq_or, Option.or_eq_some_iff,
    Option.bind_eq_some_iff] at h
  grind

end KeyState

/-- The counters of every key seen. -/
structure QuotaStore where
  keys : Dict KeyState := .empty
  deriving DecidableEq, Inhabited

namespace QuotaStore

/-- The counters of a key in a window: those it has, as they are on entering the
window, or new ones. -/
def stateIn (store : QuotaStore) (key : String) (window : Int) : KeyState :=
  ((store.keys.get? key).getD { window := window }).enter window

/-- Keep the counters of a key. -/
def put (store : QuotaStore) (key : String) (s : KeyState) : QuotaStore :=
  ⟨store.keys.insert key s⟩

/-- Admit a call and charge its estimate, or deny it and charge nothing. -/
def reserve (store : QuotaStore) (key : String) (spec : QuotaSpec) (window : Int)
    (tokens cost : UInt64) : Admission × QuotaStore :=
  let s := store.stateIn key window
  match s.denial? key spec tokens cost with
  | some d => (.deny d, store.put key s)
  | none => (.allow ⟨key, s.window, tokens, cost⟩, store.put key (s.charge tokens cost))

/-- Put actual consumption in place of a reservation. -/
def reconcile (store : QuotaStore) (r : Reservation) (window : Int) (tokens cost : UInt64) :
    QuotaStore :=
  store.put r.key ((store.stateIn r.key window).settle r tokens cost)

/-- What a key has consumed, or nothing for a key never seen. -/
def usage? (store : QuotaStore) (key : String) (window : Int) : Option QuotaUsage :=
  (store.keys.get? key).map fun s => s.usageIn window

/-- The number of keys seen. -/
def size (store : QuotaStore) : Nat :=
  store.keys.size

@[simp] theorem get?_put (store : QuotaStore) (key key' : String) (s : KeyState) :
    (store.put key s).keys.get? key' = if key' = key then some s else store.keys.get? key' :=
  Dict.get?_insert store.keys key key' s

theorem reserve_of_denied {store : QuotaStore} {key : String} {spec : QuotaSpec} {window : Int}
    {tokens cost : UInt64} {d : Denial}
    (h : (store.stateIn key window).denial? key spec tokens cost = some d) :
    store.reserve key spec window tokens cost =
      (.deny d, store.put key (store.stateIn key window)) := by
  simp [reserve, h]

theorem reserve_of_admitted {store : QuotaStore} {key : String} {spec : QuotaSpec} {window : Int}
    {tokens cost : UInt64}
    (h : (store.stateIn key window).denial? key spec tokens cost = none) :
    store.reserve key spec window tokens cost =
      (.allow ⟨key, (store.stateIn key window).window, tokens, cost⟩,
        store.put key ((store.stateIn key window).charge tokens cost)) := by
  simp [reserve, h]

/-- A reservation is for what was asked. -/
theorem of_reserve_allow {store store' : QuotaStore} {key : String} {spec : QuotaSpec}
    {window : Int} {tokens cost : UInt64} {r : Reservation}
    (h : store.reserve key spec window tokens cost = (.allow r, store')) :
    r.key = key ∧ r.tokens = tokens ∧ r.costCents = cost := by
  cases denied : (store.stateIn key window).denial? key spec tokens cost with
  | none =>
    rw [reserve_of_admitted denied] at h
    cases h
    exact ⟨rfl, rfl, rfl⟩
  | some d =>
    rw [reserve_of_denied denied] at h
    cases h

/-- A refusal is for the key that asked. -/
theorem of_reserve_deny {store store' : QuotaStore} {key : String} {spec : QuotaSpec}
    {window : Int} {tokens cost : UInt64} {d : Denial}
    (h : store.reserve key spec window tokens cost = (.deny d, store')) : d.key = key := by
  cases denied : (store.stateIn key window).denial? key spec tokens cost with
  | none =>
    rw [reserve_of_admitted denied] at h
    cases h
  | some d' =>
    rw [reserve_of_denied denied] at h
    cases h
    exact KeyState.key_of_denial? denied

/-- Asking for one key leaves every other key as it was. -/
theorem get?_reserve_of_ne (store : QuotaStore) {key key' : String} (other : key' ≠ key)
    (spec : QuotaSpec) (window : Int) (tokens cost : UInt64) :
    (store.reserve key spec window tokens cost).2.keys.get? key' = store.keys.get? key' := by
  cases h : (store.stateIn key window).denial? key spec tokens cost with
  | none => simp [reserve_of_admitted h, other]
  | some d => simp [reserve_of_denied h, other]

end QuotaStore

end ChatGateway

import ChatGateway.Dict
import ChatGateway.Http.RetryAfter

/-!
# Cooldowns

A provider that announced a delay is left alone until the delay is over.  Of
several announcements the one that ends last counts, and none counts for more
than an hour.  Times are nanoseconds on a clock that only goes forward.

## Main definitions

* `Cooldowns` — until when each provider is left alone.
* `Cooldowns.record`, `Cooldowns.clear` — the writes.
* `Cooldowns.remaining?` — the time left.
* `isRateLimit` — whether an answer means that the provider is overloaded.
-/

namespace ChatGateway

/-- The longest cooldown. -/
def longestCooldown : Nat := 3600 * Delay.second

/-- Until when each provider is left alone. -/
structure Cooldowns where
  deadlines : Dict Nat := .empty
  deriving DecidableEq, Inhabited

namespace Cooldowns

/-- The cooldown that the first header value announces, if it announces one. -/
def announced? (headers : List String) : Option Nat :=
  (headers.head?.bind Delay.ofHeader?).map fun d => min d longestCooldown

/-- Leave a provider alone for a span from now on, if not for longer already. -/
def hold (c : Cooldowns) (now : Nat) (provider : String) (span : Nat) : Cooldowns :=
  let deadline := now + span
  ⟨c.deadlines.insert provider (max ((c.deadlines.get? provider).getD deadline) deadline)⟩

/-- Take note of the header values of an answer.  Without an announcement nothing
changes. -/
def record (c : Cooldowns) (now : Nat) (provider : String) (headers : List String) :
    Option Nat × Cooldowns :=
  match announced? headers with
  | some span => (some span, c.hold now provider span)
  | none => (none, c)

/-- The time for which a provider is still left alone. -/
def remaining? (c : Cooldowns) (now : Nat) (provider : String) : Option Nat :=
  (c.deadlines.get? provider).bind fun deadline =>
    if now < deadline then some (deadline - now) else none

/-- Forget the cooldown of a provider. -/
def clear (c : Cooldowns) (provider : String) : Cooldowns :=
  ⟨c.deadlines.erase provider⟩

theorem get?_hold (c : Cooldowns) (now : Nat) (provider p : String) (span : Nat) :
    (c.hold now provider span).deadlines.get? p =
      if p = provider then
        some (max ((c.deadlines.get? provider).getD (now + span)) (now + span))
      else c.deadlines.get? p := by
  simp [hold, Dict.get?_insert]

theorem get?_clear (c : Cooldowns) (provider p : String) :
    (c.clear provider).deadlines.get? p =
      if p = provider then none else c.deadlines.get? p :=
  c.deadlines.get?_erase provider p

theorem record_of_announced {headers : List String} {span : Nat}
    (h : announced? headers = some span) (c : Cooldowns) (now : Nat) (provider : String) :
    c.record now provider headers = (some span, c.hold now provider span) := by
  simp [record, h]

theorem record_of_unannounced {headers : List String} (h : announced? headers = none)
    (c : Cooldowns) (now : Nat) (provider : String) :
    c.record now provider headers = (none, c) := by
  simp [record, h]

theorem remaining?_eq_some_iff {c : Cooldowns} {now : Nat} {provider : String} {left : Nat} :
    c.remaining? now provider = some left ↔
      0 < left ∧ c.deadlines.get? provider = some (now + left) := by
  cases h : c.deadlines.get? provider with
  | none => simp [remaining?, h]
  | some deadline =>
    simp only [remaining?, h, Option.bind_some, Option.ite_none_right_eq_some, Option.some.injEq]
    omega

theorem remaining?_eq_none_iff {c : Cooldowns} {now : Nat} {provider : String} :
    c.remaining? now provider = none ↔
      ∀ deadline, c.deadlines.get? provider = some deadline → deadline ≤ now := by
  cases h : c.deadlines.get? provider with
  | none => simp [remaining?, h]
  | some deadline => simp [remaining?, h]

end Cooldowns

/-! ## Rate limits -/

/-- The texts that mark an answer as a rate limit, whatever its status. -/
def rateLimitMarkers : List String :=
  ["rate limit", "rate_limit", "ratelimit", "too many requests", "overloaded_error"]

/-- Whether a text occurs inside another. -/
def occursIn (needle : List Char) : List Char → Bool
  | [] => needle.isEmpty
  | c :: rest => needle.isPrefixOf (c :: rest) || occursIn needle rest

/-- Whether an answer means that the provider is overloaded: by its status, or by
what its body says in small or capital letters of ASCII. -/
def isRateLimit (status : UInt16) (body : String) : Bool :=
  status = 429 ||
    rateLimitMarkers.any fun marker => occursIn marker.toList (body.toList.map Char.toLower)

end ChatGateway

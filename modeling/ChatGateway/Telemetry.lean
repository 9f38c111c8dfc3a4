import ChatGateway.Json.Value
import ChatGateway.Time.Calendar

/-!
# Usage events

Every served call leaves one event.  Events are kept in the order in which the
calls were served, until they are taken out.

## Main definitions

* `UsageEvent` — a served call, with its JSON form.
* `EventLog` — the events that were not taken out yet.
-/

namespace ChatGateway

/-- A served call. -/
structure UsageEvent where
  key : String
  /-- The model that the caller asked for. -/
  requestedModel : String
  /-- The model that its alias stands for. -/
  canonicalModel : String
  /-- The candidate that served the call. -/
  candidate : String
  provider : String
  /-- The model that the provider was asked for. -/
  model : String
  promptTokens : Option UInt32
  completionTokens : Option UInt32
  /-- The tokens that were billed. -/
  tokens : UInt64
  costCents : UInt64
  /-- The milliseconds that the provider took. -/
  latencyMs : UInt64
  timestamp : Instant
  deriving DecidableEq

/-- The value of an event. -/
def UsageEvent.json (e : UsageEvent) : Json :=
  .object [
    ("key", .string e.key),
    ("requested_model", .string e.requestedModel),
    ("canonical_model", .string e.canonicalModel),
    ("candidate", .string e.candidate),
    ("provider", .string e.provider),
    ("model", .string e.model),
    ("prompt_tokens", .orNull (fun n => .ofNat n.toNat) e.promptTokens),
    ("completion_tokens", .orNull (fun n => .ofNat n.toNat) e.completionTokens),
    ("tokens", .ofNat e.tokens.toNat),
    ("cost_cents", .ofNat e.costCents.toNat),
    ("latency_ms", .ofNat e.latencyMs.toNat),
    ("timestamp", .string e.timestamp.timestamp)]

/-- The events that were not taken out yet, the oldest first. -/
structure EventLog where
  events : List UsageEvent := []
  deriving DecidableEq, Inhabited

namespace EventLog

/-- Add an event. -/
def record (log : EventLog) (e : UsageEvent) : EventLog :=
  ⟨log.events ++ [e]⟩

/-- The events of one key. -/
def forKey (log : EventLog) (key : String) : List UsageEvent :=
  log.events.filter fun e => e.key = key

/-- Take all events out. -/
def drain (log : EventLog) : List UsageEvent × EventLog :=
  (log.events, ⟨[]⟩)

end EventLog

end ChatGateway

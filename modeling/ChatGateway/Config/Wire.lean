import ChatGateway.Config.Basic
import ChatGateway.Json.Record

/-!
# Configurations as JSON

A configuration is written in full, with null for what is absent.  All of it may
be missing when it is read, except the name and the priority of a rule.

## Main definitions

* `Config.json`, `Config.text` — what is written.
* `Config.decode`, `Config.ofText` — what is read.
-/

namespace ChatGateway

/-- A dictionary as an object. -/
def Json.ofDict {α : Type} (f : α → Json) (d : Dict α) : Json :=
  .object (d.map f).entries

/-- A number that may be absent. -/
def Json.ofWord? (w : Option UInt64) : Json :=
  Json.orNull (fun n => .ofNat n.toNat) w

namespace RoutingRule

/-- The value of a rule. -/
def json (r : RoutingRule) : Json :=
  .object [
    ("name", .string r.name),
    ("priority", .ofInt r.priority.toInt),
    ("fallback_models", .array (r.fallbackModels.map .string))]

/-- What has been read of a rule. -/
structure Slots where
  name : Option String := none
  priority : Option Int64 := none
  fallbackModels : Option (List String) := none

/-- The fields of a rule. -/
def record : Record Slots RoutingRule where
  title := "struct RoutingRule"
  fields := [
    .of "name" false Slots.name (fun s v => { s with name := some v }) Decoder.string,
    .of "priority" false Slots.priority (fun s v => { s with priority := some v }) Decoder.int64,
    .of "fallback_models" true Slots.fallbackModels (fun s v => { s with fallbackModels := some v })
      (Decoder.list Decoder.string)]
  blank := {}
  finish s := do
    let name ← require "name" s.name
    let priority ← require "priority" s.priority
    return ⟨name, priority, s.fallbackModels.getD []⟩

/-- The decoder of a rule. -/
def decode : Decoder RoutingRule := record.decode

end RoutingRule

namespace QuotaSpec

/-- The value of limits. -/
def json (s : QuotaSpec) : Json :=
  .object [
    ("max_requests_per_minute", .ofWord? s.requestsPerMinute),
    ("max_tokens_per_minute", .ofWord? s.tokensPerMinute),
    ("budget_cents", .ofWord? s.budgetCents)]

/-- What has been read of limits. -/
structure Slots where
  requestsPerMinute : Option (Option UInt64) := none
  tokensPerMinute : Option (Option UInt64) := none
  budgetCents : Option (Option UInt64) := none

/-- The fields of limits. -/
def record : Record Slots QuotaSpec where
  title := "struct QuotaSpec"
  fields := [
    .of "max_requests_per_minute" true Slots.requestsPerMinute
      (fun s v => { s with requestsPerMinute := some v }) (Decoder.optional Decoder.word64),
    .of "max_tokens_per_minute" true Slots.tokensPerMinute
      (fun s v => { s with tokensPerMinute := some v }) (Decoder.optional Decoder.word64),
    .of "budget_cents" true Slots.budgetCents
      (fun s v => { s with budgetCents := some v }) (Decoder.optional Decoder.word64)]
  blank := {}
  finish s := .ok ⟨s.requestsPerMinute.join, s.tokensPerMinute.join, s.budgetCents.join⟩

/-- The decoder of limits. -/
def decode : Decoder QuotaSpec := record.decode

end QuotaSpec

namespace Config

/-- The value of a configuration. -/
def json (c : Config) : Json :=
  .object [
    ("api_keys", .ofDict .string c.apiKeys),
    ("routing_rules", .array (c.routingRules.map RoutingRule.json)),
    ("quotas", .ofDict QuotaSpec.json c.quotas),
    ("model_aliases", .ofDict .string c.modelAliases),
    ("default_provider", .orNull .string c.defaultProvider)]

/-- The text of a configuration. -/
def text (c : Config) : String :=
  c.json.text

/-- What has been read of a configuration. -/
structure Slots where
  apiKeys : Option (Dict String) := none
  routingRules : Option (List RoutingRule) := none
  quotas : Option (Dict QuotaSpec) := none
  modelAliases : Option (Dict String) := none
  defaultProvider : Option (Option String) := none

/-- The fields of a configuration. -/
def record : Record Slots Config where
  title := "struct GatewayConfig"
  fields := [
    .of "api_keys" true Slots.apiKeys (fun s v => { s with apiKeys := some v })
      (Decoder.dict Decoder.string),
    .of "routing_rules" true Slots.routingRules (fun s v => { s with routingRules := some v })
      (Decoder.list RoutingRule.decode),
    .of "quotas" true Slots.quotas (fun s v => { s with quotas := some v })
      (Decoder.dict QuotaSpec.decode),
    .of "model_aliases" true Slots.modelAliases (fun s v => { s with modelAliases := some v })
      (Decoder.dict Decoder.string),
    .of "default_provider" true Slots.defaultProvider
      (fun s v => { s with defaultProvider := some v }) (Decoder.optional Decoder.string)]
  blank := {}
  finish s := .ok {
    apiKeys := s.apiKeys.getD .empty
    routingRules := s.routingRules.getD []
    quotas := s.quotas.getD .empty
    modelAliases := s.modelAliases.getD .empty
    defaultProvider := s.defaultProvider.join }

/-- The decoder of a configuration. -/
def decode : Decoder Config := record.decode

/-- The configuration that a text holds. -/
def ofText (s : String) : Except ReadError Config :=
  decodeText decode s

end Config

end ChatGateway

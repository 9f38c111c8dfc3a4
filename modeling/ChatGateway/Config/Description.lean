import ChatGateway.Config.Basic
import ChatGateway.Numeral
import ChatGateway.Text.Quoted

/-!
# Describing a configuration

The description of a configuration is made for logs: it names every provider
that has a secret, and no secret.

## Main definitions

* `Config.description` — the text.
* `Config.builderDescription`, `Config.loaderDescription` — the texts of those who hold a
  configuration.
-/

namespace ChatGateway

open Text

/-- A limit, or its absence. -/
def QuotaSpec.limitText (limit : Option UInt64) : String :=
  optional (limit.map fun n => (Numeral.ofNat n.toNat).text)

/-- The description of limits. -/
def QuotaSpec.description (s : QuotaSpec) : String :=
  titled "QuotaSpec" [
    ("max_requests_per_minute", limitText s.requestsPerMinute),
    ("max_tokens_per_minute", limitText s.tokensPerMinute),
    ("budget_cents", limitText s.budgetCents)]

/-- The description of a rule. -/
def RoutingRule.description (r : RoutingRule) : String :=
  titled "RoutingRule" [
    ("name", quoted r.name),
    ("priority", (Numeral.ofInt r.priority.toInt).text),
    ("fallback_models", quotedList r.fallbackModels)]

/-- The description of limits by key. -/
def describeQuotas (d : Dict QuotaSpec) : String :=
  braced (d.map QuotaSpec.description).entries

/-- The description of a configuration.  Every secret is blotted out. -/
def Config.description (c : Config) : String :=
  titled "GatewayConfig" [
    ("api_keys", braced (c.apiKeys.map fun _ => quoted "<redacted>").entries),
    ("routing_rules", bracketed (c.routingRules.map RoutingRule.description)),
    ("quotas", describeQuotas c.quotas),
    ("model_aliases", braced (c.modelAliases.map quoted).entries),
    ("default_provider", optional (c.defaultProvider.map quoted))]

/-- The description of what holds a configuration and nothing else. -/
def Config.holderDescription (title : String) (c : Config) : String :=
  titled title [("config", c.description)]

/-- The description of a builder that has come to a configuration. -/
def Config.builderDescription (c : Config) : String :=
  c.holderDescription "ConfigBuilder"

/-- The description of a loader that has come to a configuration. -/
def Config.loaderDescription (c : Config) : String :=
  c.holderDescription "ConfigLoader"

end ChatGateway

import ChatGateway.Environment
import ChatGateway.Word

/-!
# Configurations

A configuration is a value: secrets, routing rules, limits, aliases and a
default provider.  Nothing is validated when one is made, so a rule may be empty
and a provider unknown until a call needs them.

## Main definitions

* `RoutingRule`, `QuotaSpec`, `Config` — the parts and the whole.
* `Config.apiKeyFor?` — the secret of a provider.
* `Config.merge` — one configuration laid over another.
-/

namespace ChatGateway

/-- A chain of models to try, selected by its first. -/
structure RoutingRule where
  name : String
  /-- Higher is preferred. -/
  priority : Int64
  /-- The models to try, in order. -/
  fallbackModels : List String := []
  deriving DecidableEq

namespace RoutingRule

/-- The model that a rule is selected for. -/
def primary? (r : RoutingRule) : Option String :=
  r.fallbackModels.head?

end RoutingRule

/-- The limits of a virtual key; an axis without a limit is unlimited. -/
structure QuotaSpec where
  requestsPerMinute : Option UInt64 := none
  tokensPerMinute : Option UInt64 := none
  budgetCents : Option UInt64 := none
  deriving DecidableEq, Repr, Inhabited

namespace QuotaSpec

/-- No limit on any axis. -/
def unlimited : QuotaSpec := {}

/-- Whether no axis has a limit. -/
def isUnlimited (s : QuotaSpec) : Bool :=
  s.requestsPerMinute.isNone && s.tokensPerMinute.isNone && s.budgetCents.isNone

end QuotaSpec

/-- What a gateway is run with. -/
structure Config where
  /-- The secret of each provider. -/
  apiKeys : Dict String := .empty
  /-- The routing rules, in order of registration. -/
  routingRules : List RoutingRule := []
  /-- The limits of each virtual key. -/
  quotas : Dict QuotaSpec := .empty
  /-- The model that each alias stands for. -/
  modelAliases : Dict String := .empty
  /-- The provider of a model that no provider claims. -/
  defaultProvider : Option String := none
  deriving DecidableEq, Inhabited

namespace Config

/-- The secret of a provider, from the configuration or else from its variable. -/
def apiKeyFor? (c : Config) (env : Environment) (provider : String) : Option String :=
  c.apiKeys.get? provider <|> env.get? (variableName provider "API_KEY")

/-- The limits of a key; a key without limits of its own is unlimited. -/
def quotaFor (c : Config) (key : String) : QuotaSpec :=
  (c.quotas.get? key).getD .unlimited

/-- Lay `other` over `c`: its entries replace those of the same key, its rules
follow, and its default provider counts if it has one. -/
def merge (c other : Config) : Config where
  apiKeys := c.apiKeys.extend other.apiKeys
  routingRules := c.routingRules ++ other.routingRules
  quotas := c.quotas.extend other.quotas
  modelAliases := c.modelAliases.extend other.modelAliases
  defaultProvider := other.defaultProvider <|> c.defaultProvider

end Config

end ChatGateway

import ChatGateway.Config.Basic

/-!
# Settings

A configuration is put together from settings, one after another.  An entry of
the same key replaces the earlier one; rules only ever follow each other.

## Main definitions

* `Setting` — one step.
* `Config.set` — what a step does.
* `Config.ofSettings` — the configuration of a row of steps.
-/

namespace ChatGateway

/-- One step in putting a configuration together. -/
inductive Setting where
  | apiKey (provider secret : String)
  | modelAlias (name target : String)
  | rule (r : RoutingRule)
  | quota (key : String) (spec : QuotaSpec)
  | defaultProvider (provider : String)
  deriving DecidableEq

namespace Config

/-- Take one step. -/
def set (c : Config) : Setting → Config
  | .apiKey provider secret => { c with apiKeys := c.apiKeys.insert provider secret }
  | .modelAlias name target => { c with modelAliases := c.modelAliases.insert name target }
  | .rule r => { c with routingRules := c.routingRules ++ [r] }
  | .quota key spec => { c with quotas := c.quotas.insert key spec }
  | .defaultProvider provider => { c with defaultProvider := some provider }

/-- The configuration of a row of steps. -/
def ofSettings (steps : List Setting) : Config :=
  steps.foldl set {}

end Config

end ChatGateway

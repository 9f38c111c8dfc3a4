import ChatGateway.Client.Argument
import ChatGateway.Config.Setting

/-!
# Settings from a dynamic host

The host puts a configuration together from values.  Arguments are taken in
order, and the first one that is refused is the fault of the whole step.

## Main definitions

* `Setting.apiKeyOf`, `modelAliasOf`, `ruleOf`, `quotaOf`, `defaultProviderOf` — the
  settings of some values.
-/

namespace ChatGateway.Setting

/-- The secret of a provider. -/
def apiKeyOf (provider secret : Value) : Except ArgumentFault Setting := do
  return .apiKey (← provider.toStr) (← secret.toStr)

/-- The target of an alias. -/
def modelAliasOf (name target : Value) : Except ArgumentFault Setting := do
  return .modelAlias (← name.toStr) (← target.toStr)

/-- A routing rule. -/
def ruleOf (name priority fallbackModels : Value) : Except ArgumentFault Setting := do
  return .rule ⟨← name.toStr, ← priority.toInt64, ← fallbackModels.toList Value.toStr⟩

/-- A default provider. -/
def defaultProviderOf (provider : Value) : Except ArgumentFault Setting := do
  return .defaultProvider (← provider.toStr)

/-- The names of limits, the short ones first. -/
def limitNames : List String :=
  ["rpm", "tpm", "budget_cents", "max_requests_per_minute", "max_tokens_per_minute"]

/-- A limit by name; one that is not named is absent. -/
def limitOf (limits : List (String × Value)) (name : String) :
    Except ArgumentFault (Option UInt64) :=
  ((limits.lookup name).getD .null).toOptional Value.toWord64

/-- The limits of a key.  A long name counts before a short one, and a name that is
none of these is refused first of all. -/
def quotaOf (key : Value) (limits : List (String × Value)) : Except ArgumentFault Setting := do
  if !limits.all fun l => limitNames.contains l.1 then throw .wrongType
  let key ← key.toStr
  let rpm ← limitOf limits "rpm"
  let tpm ← limitOf limits "tpm"
  let budget ← limitOf limits "budget_cents"
  let requests ← limitOf limits "max_requests_per_minute"
  let tokens ← limitOf limits "max_tokens_per_minute"
  return .quota key ⟨requests <|> rpm, tokens <|> tpm, budget⟩

end ChatGateway.Setting

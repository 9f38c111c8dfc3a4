import ChatGateway.Environment
import ChatGateway.Http.Dialect
import ChatGateway.Routing.Registry

/-!
# Known providers

Two providers are known without being configured.  A variable may move each of
them to another address, and any other provider that speaks the chat-completions
dialect may be added.

## Main definitions

* `openAi`, `anthropic` — the known providers.
* `compatible` — another provider of the chat-completions dialect.
* `knownProviders` — the registry of the known ones.
-/

namespace ChatGateway

/-- The base address of a provider: that of its variable, or else a given one. -/
def baseAddress (env : Environment) (provider default : String) : String :=
  (env.get? (variableName provider "API_BASE")).getD default

/-- A provider of the chat-completions dialect. -/
def compatible (name base : String) (starts : List String) : Provider Endpoint :=
  ⟨name, claimsStarting starts, ⟨.completions, base⟩⟩

/-- The models of `openAi` start with one of these. -/
def openAiStarts : List String :=
  ["gpt-", "o1", "o3", "o4", "chatgpt-", "text-"]

/-- The known provider of the chat-completions dialect. -/
def openAi (env : Environment) : Provider Endpoint :=
  compatible "openai" (baseAddress env "openai" "https://api.openai.com/v1") openAiStarts

/-- The known provider of the messages dialect. -/
def anthropic (env : Environment) : Provider Endpoint :=
  ⟨"anthropic", claimsStarting ["claude-"],
    ⟨.messages, baseAddress env "anthropic" "https://api.anthropic.com/v1"⟩⟩

/-- The known providers. -/
def knownProviders (env : Environment) : Registry Endpoint :=
  .ofList [openAi env, anthropic env]

end ChatGateway

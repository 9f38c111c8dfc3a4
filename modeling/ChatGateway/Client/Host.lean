import ChatGateway.Chat.Wire
import ChatGateway.Client.Argument
import ChatGateway.Config.File
import ChatGateway.Environment.File
import ChatGateway.Http.Providers
import ChatGateway.Session.Service

/-!
# Gateways for a dynamic host

The host makes a gateway from a configuration, from a file, or from the files at
the known places, and calls it with values.  A failure is raised in the host as
an error of one of a few classes.

## Main definitions

* `HostFault`, `HostFault.errorClass` — failures and their classes.
* `Host`, `Host.open?` — a gateway with its state, and how it is made.
* `Host.chat` — a chat call.
* `ChatResponse.hostJson` — an answer as the host sees it.
-/

namespace ChatGateway

/-! ## Failures -/

/-- A failure of an operation that the host called. -/
inductive HostFault where
  | argument (f : ArgumentFault)
  | gateway (e : GatewayError)

/-- The classes of errors that the host tells apart. -/
inductive ErrorClass where
  | value
  | type
  | overflow
  | key
  | permission
  | connection
  | runtime
  deriving DecidableEq, Repr

/-- The class of an error.  What another attempt may cure is a matter of
connection. -/
def GatewayError.errorClass : GatewayError → ErrorClass
  | configuration _ => .value
  | notInitialized | sessionClosed | quotaDenied _ _ | aborted _ _ _ | internal _ => .runtime
  | provider e => if e.retryable then .connection else .runtime
  | keyRevoked _ _ => .permission
  | exhausted _ _ | store _ => .connection

/-- The class of a fault of an argument. -/
def ArgumentFault.errorClass : ArgumentFault → ErrorClass
  | wrongType => .type
  | outOfRange => .overflow
  | missingRole => .key

namespace HostFault

/-- The class of a failure. -/
def errorClass : HostFault → ErrorClass
  | argument f => f.errorClass
  | gateway e => e.errorClass

/-- The text of a failure that has one of its own. -/
def message? : HostFault → Option String
  | argument f => f.message?
  | gateway e => some e.message

end HostFault

/-! ## Answers -/

/-- A message as the host sees it. -/
def hostMessage (role : Role) (content : String) : Json :=
  .object [("role", .string role.tag), ("content", .string content)]

/-- A completion as the host sees it: there is always a message. -/
def Choice.hostJson (c : Choice) : Json :=
  let message := c.message.getD ⟨.assistant, ""⟩
  .object [
    ("index", .ofNat c.index.toNat),
    ("finish_reason", .orNull .string c.finishReason),
    ("message", hostMessage message.role message.content)]

/-- An answer as the host sees it: there is always a completion. -/
def ChatResponse.hostJson (r : ChatResponse) : Json :=
  let choices :=
    if r.choices.isEmpty then
      [Json.object [("index", .ofNat 0), ("message", hostMessage .assistant "")]]
    else r.choices.map Choice.hostJson
  .object (
    [("id", .string r.id), ("model", .string r.model), ("choices", .array choices)]
      ++ Json.member? "usage" Usage.json r.usage)

/-- A usage as the host sees it. -/
def QuotaUsage.hostJson (u : QuotaUsage) : Json :=
  .object [
    ("requests", .ofNat u.requests.toNat),
    ("tokens", .ofNat u.tokens.toNat),
    ("spent_cents", .ofNat u.spentCents.toNat)]

/-! ## Gateways -/

/-- A gateway with its state. -/
structure Host where
  gateway : Gateway Endpoint
  session : Session := {}
  line : Line := {}

namespace Host

/-- The configuration that a gateway is made from: one that is given, or else the
file that is named, or else the files at the known places. -/
def configFrom? (files : String → File) (home settings : Option String) (env : Environment)
    (config : Option Config) (path : Option String) : Except ConfigFault Config :=
  match config, path with
  | some config, _ => .ok config
  | none, some path => Config.ofFile path (files path)
  | none, none => Config.ofPlaces files (Config.places home settings env)

/-- Make a gateway, after the environment file in the current directory. -/
def open? (files : String → File) (home settings : Option String) (env : Environment)
    (config : Option Config) (path : Option String) : Except ConfigFault Host :=
  let env := match (files ".env").text with
    | .ok content => env.load content
    | .error _ => env
  (configFrom? files home settings env config path).map fun config =>
    { gateway := { config := config, registry := knownProviders env, env := env } }

/-- Make a chat call over a network.  The messages are looked at last of the
arguments. -/
def chat (h : Host) (network : Nat → Delivery) (key model messages temperature maxTokens : Value) :
    Except HostFault ChatResponse × Host :=
  let arguments : Except ArgumentFault _ := do
    let key ← key.toStr
    let model ← model.toStr
    let items ← messages.toList pure
    let temperature ← temperature.toOptional Value.toSingle
    let maxTokens ← maxTokens.toOptional Value.toWord32
    let messages ← items.mapM messageOf
    return (key, model, messages, temperature, maxTokens)
  match arguments with
  | .error f => (.error (.argument f), h)
  | .ok (key, model, messages, temperature, maxTokens) =>
    let (progress, session) := h.gateway.chat h.session key model messages temperature maxTokens
    let (outcome, session, line) :=
      h.gateway.serve defaultRepeats network 0 progress session h.line
    (outcome.mapError .gateway, { h with session := session, line := line })

end Host

end ChatGateway

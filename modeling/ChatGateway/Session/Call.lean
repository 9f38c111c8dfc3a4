import ChatGateway.Routing.Selection
import ChatGateway.Session.Gateway

/-!
# Chat calls

A call walks over the candidates of its model.  A candidate that leads nowhere,
is denied or fails in a way that may pass is left for the next; the first answer
ends the call, and so does a failure that no other candidate would mend.

A call keeps the configuration that it began with.  While it waits for a
provider it is a value of its own, so any number of calls may wait while the
session goes on, and a call that is given up simply goes unanswered.

## Main definitions

* `Call`, `Waiting`, `Progress` — a call, and how far it has come.
* `Gateway.walk` — go on to the next candidate that admits the call.
* `Gateway.chat` — begin a call.
* `Gateway.answer` — go on with the reply of a provider.
-/

namespace ChatGateway

/-- What a call begins with and keeps. -/
structure Call where
  key : String
  /-- The model that the caller asked for. -/
  requestedModel : String
  /-- The model that its alias stands for. -/
  canonicalModel : String
  /-- The configuration of the whole call. -/
  config : Config
  /-- The request; the model in it is that of the candidate. -/
  request : ChatRequest
  deriving DecidableEq

/-- The candidates that were not used so far. -/
structure Trail where
  attempts : List Attempt := []
  /-- The last denial or failure. -/
  last : Option GatewayError := none

namespace Trail

/-- The error that a reason leaves behind; a candidate that leads nowhere leaves
none. -/
def errorOf : AttemptFailure → Option GatewayError
  | .denied d => some (.ofDenial d)
  | .provider e => some (.provider e)
  | .unroutable _ => none

/-- Add a candidate that was not used. -/
def push (t : Trail) (candidate : String) (failure : AttemptFailure) : Trail :=
  ⟨t.attempts ++ [⟨candidate, failure⟩], errorOf failure <|> t.last⟩

end Trail

/-- A call that waits for a provider. -/
structure Waiting where
  call : Call
  /-- The candidates before. -/
  trail : Trail
  candidate : String
  route : Route
  /-- What the provider was asked. -/
  dispatch : Dispatch
  /-- What the call was expected to consume. -/
  estimatedTokens : UInt64
  estimatedCost : UInt64
  reservation : Reservation
  /-- The candidates after. -/
  rest : List String

/-- How far a call has come. -/
inductive Progress where
  | done (outcome : Except GatewayError ChatResponse)
  | waiting (w : Waiting)

/-- How many candidates may still be asked. -/
def Progress.remaining : Progress → Nat
  | done _ => 0
  | waiting w => w.rest.length + 1

namespace Gateway

variable {α : Type} (g : Gateway α)

/-- Where a candidate leads: a route and the secret of its provider. -/
def reach (config : Config) (candidate : String) : Except RoutingFault (Route × String) :=
  match Route.of? g.registry config.defaultProvider candidate with
  | none => .error (.unknownProvider candidate)
  | some route =>
    match g.registry.get? route.provider, config.apiKeyFor? g.env route.provider with
    | some _, some secret => .ok (route, secret)
    | _, _ => .error (.missingKey route.provider)

/-- Go on to the next candidate that admits the call. -/
def walk (call : Call) (trail : Trail) (s : Session) : List String → Progress × Session
  | [] => (.done (.error (.exhausted trail.attempts trail.last)), s)
  | candidate :: rest =>
    match g.reach call.config candidate with
    | .error fault => walk call (trail.push candidate (.unroutable fault)) s rest
    | .ok (route, secret) =>
      let request := { call.request with model := route.model }
      let tokens := request.estimatedTokens
      let cost := g.pricing.estimate route.model tokens
      match s.reserve call.config call.key tokens cost with
      | (.error e, s) => (.done (.error e), s)
      | (.ok (.deny d), s) => walk call (trail.push candidate (.denied d)) s rest
      | (.ok (.allow reservation), s) =>
        let dispatch : Dispatch := ⟨route.provider, secret, request⟩
        (.waiting {
            call := call
            trail := trail
            candidate := candidate
            route := route
            dispatch := dispatch
            estimatedTokens := tokens
            estimatedCost := cost
            reservation := reservation
            rest := rest },
          { s with dispatches := s.dispatches ++ [dispatch] })

/-- Begin a call.  A revoked key is refused before any candidate is looked at. -/
def chat (s : Session) (key model : String) (messages : List Message)
    (temperature : Option Binary) (maxTokens : Option UInt32) : Progress × Session :=
  match s.config with
  | .error e => (.done (.error e), s)
  | .ok config =>
    match s.revocations.get? key with
    | some reason => (.done (.error (.keyRevoked key reason)), s)
    | none =>
      let canonical := resolveAlias config.modelAliases model
      let call : Call := ⟨key, model, canonical, config, ⟨"", messages, temperature, maxTokens⟩⟩
      g.walk call {} s (selectCandidates config.routingRules canonical)

/-- What a served call is billed: what the provider counted, or else the
estimate. -/
def bill (w : Waiting) (response : ChatResponse) : UInt64 × UInt64 :=
  match response.usage with
  | some usage => (usage.tokens, g.pricing.actual w.route.model usage)
  | none => (w.estimatedTokens, w.estimatedCost)

/-- The event of a served call. -/
def event (w : Waiting) (response : ChatResponse) (latencyMs : UInt64) (now : Instant) :
    UsageEvent :=
  let (tokens, cost) := g.bill w response
  { key := w.call.key
    requestedModel := w.call.requestedModel
    canonicalModel := w.call.canonicalModel
    candidate := w.candidate
    provider := w.route.provider
    model := w.route.model
    promptTokens := response.usage.map (·.promptTokens)
    completionTokens := response.usage.map (·.completionTokens)
    tokens := tokens
    costCents := cost
    latencyMs := latencyMs
    timestamp := now }

/-- Go on with the reply of a provider. -/
def answer (w : Waiting) (reply : Except ProviderError ChatResponse) (latencyMs : UInt64)
    (s : Session) : Progress × Session :=
  match reply with
  | .ok response =>
    let (tokens, cost) := g.bill w response
    let s := s.record w.reservation tokens cost
    (.done (.ok response),
      { s with events := s.events.record (g.event w response latencyMs s.now) })
  | .error e =>
    if e.retryable then g.walk w.call (w.trail.push w.candidate (.provider e)) s w.rest
    else (.done (.error (.aborted w.candidate e w.trail.attempts)), s)

/-- Walking leaves no more candidates than there were. -/
theorem remaining_walk_le (call : Call) (trail : Trail) (s : Session) (candidates : List String) :
    (g.walk call trail s candidates).1.remaining ≤ candidates.length := by
  induction candidates generalizing trail s with
  | nil => simp [walk, Progress.remaining]
  | cons candidate rest ih =>
    have step := fun trail s => Nat.le_succ_of_le (ih trail s)
    simp only [walk, List.length_cons]
    split
    · exact step _ _
    · split
      · simp [Progress.remaining]
      · exact step _ _
      · simp [Progress.remaining]

/-- A reply uses up a candidate. -/
theorem remaining_answer_lt (w : Waiting) (reply : Except ProviderError ChatResponse)
    (latencyMs : UInt64) (s : Session) :
    (g.answer w reply latencyMs s).1.remaining < (Progress.waiting w).remaining := by
  unfold answer
  split
  · simp [Progress.remaining]
  · split
    · exact Nat.lt_succ_of_le (g.remaining_walk_le _ _ _ _)
    · simp [Progress.remaining]

end Gateway

end ChatGateway

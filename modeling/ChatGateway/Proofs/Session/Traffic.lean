import ChatGateway.Proofs.Quota.History
import ChatGateway.Proofs.Session.Walk

/-!
# Traffic

Any number of calls of one session are under way at once.  Each waits for a provider
until it is answered or given up; meanwhile other calls begin, go on and end, the
clock moves either way, and the session is reloaded, closed and told of policies.

The traffic of a session keeps a trace of all that its calls do: what the store
answered to them, what they asked of providers, what they recorded and which events
they left.  The trace is not taken on trust: performed on an empty store it leads to
the store of the session, answer by answer.

## Main definitions

* `Act`, `RequestAct` — the acts of a trace; most belong to a numbered request.
* `QuotaStore.perform` — an act carried out, provided the store answers as it says.
* `Request`, `Fate`, `Request.life` — a request to a provider, what became of it, and
  the acts that it has to leave.
* `Traffic`, `Gateway.advance` — a session with its requests, and its steps.
* `Gateway.traffic` — what a row of steps leads to.
-/

namespace ChatGateway

/-! ## Acts -/

/-- What is done for one request to a provider. -/
inductive RequestAct where
  /-- The store admits it, asked under some limits in some window. -/
  | admitted (spec : QuotaSpec) (window : Int) (r : Reservation)
  | dispatched (d : Dispatch)
  /-- The call is given up while it waits. -/
  | dropped
  | failed (e : ProviderError)
  | answered (response : ChatResponse)
  /-- The reservation is settled, in some window. -/
  | recorded (window : Int) (r : Reservation) (tokens cost : UInt64)
  | emitted (e : UsageEvent)
  /-- The call ends with what became of this request. -/
  | ended (outcome : Except GatewayError ChatResponse)

/-- What a call does. -/
inductive Act where
  /-- The store denies a candidate, asked under some limits in some window. -/
  | denied (spec : QuotaSpec) (window : Int) (tokens cost : UInt64) (d : Denial)
  | request (n : Nat) (a : RequestAct)
  /-- A call ends before any provider was asked. -/
  | ended (outcome : Except GatewayError ChatResponse)

namespace Act

/-- The act of a request, if it is one of this request. -/
def of? (n : Nat) : Act → Option RequestAct
  | .request m a => if m = n then some a else none
  | _ => none

/-- The reservation that an act gives out. -/
def admitted? : Act → Option Reservation
  | .request _ (.admitted _ _ r) => some r
  | _ => none

/-- The request that an act hands to a provider. -/
def dispatched? : Act → Option Dispatch
  | .request _ (.dispatched d) => some d
  | _ => none

/-- The event that an act leaves. -/
def emitted? : Act → Option UsageEvent
  | .request _ (.emitted e) => some e
  | _ => none

/-- The operation of the store that an act calls. -/
def method? : Act → Option StoreMethod
  | .denied .. => some .reserve
  | .request _ (.admitted ..) => some .reserve
  | .request _ (.recorded ..) => some .reconcile
  | _ => none

/-- The call of the store that an act stands for. -/
def storeCall? : Act → Option StoreCall
  | .denied spec window tokens cost d => some (.reserve d.key spec window tokens cost)
  | .request _ (.admitted spec window r) =>
    some (.reserve r.key spec window r.tokens r.costCents)
  | .request _ (.recorded window r tokens cost) => some (.reconcile r window tokens cost)
  | _ => none

end Act

/-- The acts of a request, as a trace has them. -/
def lifeOf (trace : List Act) (n : Nat) : List RequestAct :=
  trace.filterMap (Act.of? n)

/-- Carry out what an act says was done to the store, provided the store answers as
the act says it did. -/
def QuotaStore.perform (store : QuotaStore) : Act → Option QuotaStore
  | .denied spec window tokens cost d =>
    let (answer, store) := store.reserve d.key spec window tokens cost
    if answer = .deny d then some store else none
  | .request _ (.admitted spec window r) =>
    let (answer, store) := store.reserve r.key spec window r.tokens r.costCents
    if answer = .allow r then some store else none
  | .request _ (.recorded window r tokens cost) => some (store.reconcile r window tokens cost)
  | _ => some store

/-- The store after the acts of a trace, provided it answers as they say. -/
def QuotaStore.replay (store : QuotaStore) (trace : List Act) : Option QuotaStore :=
  trace.foldlM QuotaStore.perform store

/-! ## Requests -/

/-- What became of a request. -/
inductive Fate where
  | waiting
  | dropped
  /-- The provider failed.  The call went on, or ended with an error. -/
  | failed (e : ProviderError) (ending : Option GatewayError)
  /-- The provider answered, and the answer is that of the call. -/
  | served (response : ChatResponse) (event : UsageEvent)

/-- A request to a provider. -/
structure Request where
  /-- The call as it waits for the provider. -/
  waiting : Waiting
  /-- When the request was handed to the provider. -/
  since : Instant
  fate : Fate

namespace Request

/-- The key for which a request is made. -/
def key (c : Request) : String :=
  c.waiting.call.key

/-- Whether a request was answered with success. -/
def isServed (c : Request) : Bool :=
  match c.fate with
  | .served _ _ => true
  | _ => false

/-- The acts by which a request comes to wait: it is admitted once, and then handed to
the provider. -/
def opening (c : Request) : List RequestAct :=
  [.admitted (c.waiting.call.config.quotaFor c.key) (windowOf c.since) c.waiting.reservation,
   .dispatched c.waiting.dispatch]

/-- The acts of a request.  It is recorded, and leaves an event with the recorded
figures, if it is served, and not otherwise. -/
def life (c : Request) : List RequestAct :=
  match c.fate with
  | .waiting => c.opening
  | .dropped => c.opening ++ [.dropped]
  | .failed e none => c.opening ++ [.failed e]
  | .failed e (some ending) => c.opening ++ [.failed e, .ended (.error ending)]
  | .served response event =>
    c.opening ++ [.answered response,
      .recorded (windowOf event.timestamp) c.waiting.reservation event.tokens event.costCents,
      .emitted event, .ended (.ok response)]

end Request

/-! ## Steps -/

/-- A step of administration. -/
inductive AdminStep where
  | init
  | close
  | reload (config : Config)
  | applyPolicy (u : PolicyUpdate)
  | usage (key : String)

/-- A step of the traffic of a session. -/
inductive TrafficStep where
  /-- A call begins. -/
  | chat (key model : String) (messages : List Message) (temperature : Option Binary)
    (maxTokens : Option UInt32)
  /-- The provider replies to a request. -/
  | answer (n : Nat) (reply : Except ProviderError ChatResponse) (latencyMs : UInt64)
  /-- The call that waits for a request is given up. -/
  | drop (n : Nat)
  /-- The clock is somewhere else. -/
  | clock (now : Instant)
  | admin (step : AdminStep)

/-- The request of a call that has come to wait. -/
def Progress.requests (now : Instant) : Progress → List Request
  | .done _ => []
  | .waiting w => [⟨w, now, .waiting⟩]

/-- The acts by which a call comes to wait for the provider of the new request `n`, or
ends. -/
def Progress.acts (n : Nat) (now : Instant) (ended : Except GatewayError ChatResponse → Act) :
    Progress → List Act
  | .done outcome => [ended outcome]
  | .waiting w => (Request.opening ⟨w, now, .waiting⟩).map (.request n)

/-- The error with which a call has ended. -/
def Progress.error? : Progress → Option GatewayError
  | .done (.error e) => some e
  | _ => none

/-- A session, its requests to providers in order, and what its calls did. -/
structure Traffic where
  session : Session
  requests : List Request := []
  trace : List Act := []

/-- A call has done some acts and come to wait, with a new request, or to its end. -/
def Traffic.follow (t : Traffic) (acts : List Act)
    (ended : Except GatewayError ChatResponse → Act) (next : Progress × Session) : Traffic where
  session := next.2
  requests := t.requests ++ next.1.requests t.session.now
  trace := t.trace ++ (acts ++ next.1.acts t.requests.length t.session.now ended)

namespace Gateway

variable {α : Type} (g : Gateway α)

/-- Carry out a step of administration. -/
def administer (s : Session) : AdminStep → Session
  | .init => (g.init s).2
  | .close => s.close.2
  | .reload config => (s.reload config).2
  | .applyPolicy u => (s.applyPolicy u).2
  | .usage key => (s.usage key).2

/-- The denials of a walk. -/
def denials (call : Call) (now : Instant) (store : QuotaStore) : List String → List Act
  | [] => []
  | candidate :: rest =>
    match g.reach call.config candidate with
    | .error _ => denials call now store rest
    | .ok (route, _) =>
      match g.askStore call route now store with
      | (.allow _, _) => []
      | (.deny d, store) =>
        .denied (call.config.quotaFor call.key) (windowOf now) (call.tokensFor route)
          (g.centsFor call route) d :: denials call now store rest

/-- What a reply makes of the request `n`, until its call waits again or ends. -/
def replyActs (n : Nat) (w : Waiting) (reply : Except ProviderError ChatResponse)
    (latencyMs : UInt64) (s : Session) : List Act :=
  match reply with
  | .ok response =>
    let event := g.event w response latencyMs s.now
    [.request n (.answered response),
     .request n (.recorded (windowOf s.now) w.reservation event.tokens event.costCents),
     .request n (.emitted event)]
  | .error e =>
    .request n (.failed e) ::
      if e.retryable then g.denials w.call s.now s.store w.rest else []

/-- The fate of a request after a reply. -/
def fate (w : Waiting) (reply : Except ProviderError ChatResponse) (latencyMs : UInt64)
    (s : Session) : Fate :=
  match reply with
  | .ok response => .served response (g.event w response latencyMs s.now)
  | .error e => .failed e (g.answer w reply latencyMs s).1.error?

/-- Carry out a step.  A reply to a request that does not wait goes nowhere. -/
def advance (t : Traffic) : TrafficStep → Traffic
  | .chat key model messages temperature maxTokens =>
    let next := g.chat t.session key model messages temperature maxTokens
    let denials := match t.session.open? key model messages temperature maxTokens with
      | .error _ => []
      | .ok call => g.denials call t.session.now t.session.store call.candidates
    t.follow denials .ended next
  | .answer n reply latencyMs =>
    match t.requests[n]? with
    | some ⟨w, since, .waiting⟩ =>
      let next := g.answer w reply latencyMs t.session
      let told := t.requests.set n ⟨w, since, g.fate w reply latencyMs t.session⟩
      { t with requests := told }.follow (g.replyActs n w reply latencyMs t.session)
        (fun outcome => .request n (.ended outcome)) next
    | _ => t
  | .drop n =>
    match t.requests[n]? with
    | some ⟨w, since, .waiting⟩ =>
      { t with
        requests := t.requests.set n ⟨w, since, .dropped⟩
        trace := t.trace ++ [.request n .dropped] }
    | _ => t
  | .clock now => { t with session := { t.session with now := now } }
  | .admin step => { t with session := g.administer t.session step }

/-- The traffic of a row of steps. -/
def traffic (s : Session) (steps : List TrafficStep) : Traffic :=
  steps.foldl g.advance ⟨s, [], []⟩

@[simp] theorem traffic_concat (s : Session) (steps : List TrafficStep) (step : TrafficStep) :
    g.traffic s (steps ++ [step]) = g.advance (g.traffic s steps) step := by
  simp [traffic]

variable {g} {t : Traffic} {n : Nat}

/-- A reply to a request that does not wait goes nowhere. -/
theorem advance_answer_of_idle (idle : ¬ ∃ w since, t.requests[n]? = some ⟨w, since, .waiting⟩)
    (reply : Except ProviderError ChatResponse) (latencyMs : UInt64) :
    g.advance t (.answer n reply latencyMs) = t := by
  simp only [advance]
  split
  · rename_i w since here
    exact absurd ⟨w, since, here⟩ idle
  · rfl

/-- A reply to a request that waits makes its call go on. -/
theorem advance_answer_of_waiting {w : Waiting} {since : Instant}
    (here : t.requests[n]? = some ⟨w, since, .waiting⟩)
    (reply : Except ProviderError ChatResponse) (latencyMs : UInt64) :
    g.advance t (.answer n reply latencyMs) =
      Traffic.follow
        { t with requests := t.requests.set n ⟨w, since, g.fate w reply latencyMs t.session⟩ }
        (g.replyActs n w reply latencyMs t.session) (fun outcome => .request n (.ended outcome))
        (g.answer w reply latencyMs t.session) := by
  simp only [advance, here]

end Gateway

end ChatGateway

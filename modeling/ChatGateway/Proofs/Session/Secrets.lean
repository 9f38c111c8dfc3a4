import ChatGateway.Config.Description
import ChatGateway.Http.Providers
import ChatGateway.Proofs.Session.Operations
import ChatGateway.Proofs.Session.Snapshot

/-!
# Secrets stay unseen

A secret is fetched for every candidate and handed to its provider.  All that the gateway
makes of it is a header, and whether there can be such a header is all that it can tell of a
secret.  So put one and the same secret in the place of all that can be sent, and another in
the place of all that cannot: the gateway does the same, step by step, and all that is
different is hidden again by the same exchange.  Two gateways whose configurations differ in
their secrets alone are the same after it, and so is all that they report.

## Main definitions

* `veilSecret`, and `veil` for whatever holds a secret — the exchange of secrets.
* `Upstream`, `Upstream.Blind` — what answers to sendings, whatever the secret.
* `operate_veil`, `dealings_veil` — the exchange commutes with all operations.
* `Config.SameButSecrets`, `Dealings.ReportAlike`, `secrets_unseen` — two runs.
-/

namespace ChatGateway

/-! ## The exchange of secrets -/

/-- A secret that stands for all that can be sent, or for all that cannot. -/
def veilSecret (secret : String) : String :=
  if isHeaderValue secret then "" else "\n"

theorem isHeaderValue_veilSecret (secret : String) :
    isHeaderValue (veilSecret secret) = isHeaderValue secret := by
  cases legal : isHeaderValue secret with
  | true => simp only [veilSecret, legal, if_true]; decide
  | false => simp only [veilSecret, legal, if_false, Bool.false_eq_true]; decide

theorem veilSecret_congr {secret secret' : String}
    (legal : isHeaderValue secret = isHeaderValue secret') :
    veilSecret secret = veilSecret secret' := by
  simp only [veilSecret, legal]

/-- Other secrets in a configuration. -/
def Config.veil (c : Config) : Config :=
  { c with apiKeys := c.apiKeys.map veilSecret }

/-- Other secrets in the variables, which a session takes nothing else from. -/
def Environment.veil (env : Environment) : Environment :=
  ⟨env.bindings.map veilSecret⟩

def Gateway.veil {α : Type} (g : Gateway α) : Gateway α :=
  { g with config := g.config.veil, env := g.env.veil }

def Dispatch.veil (d : Dispatch) : Dispatch :=
  { d with secret := veilSecret d.secret }

def Call.veil (call : Call) : Call :=
  { call with config := call.config.veil }

def Waiting.veil (w : Waiting) : Waiting :=
  { w with call := w.call.veil, dispatch := w.dispatch.veil }

def Progress.veil : Progress → Progress
  | .done outcome => .done outcome
  | .waiting w => .waiting w.veil

def Phase.veil : Phase → Phase
  | .uninitialized => .uninitialized
  | .ready config => .ready config.veil
  | .closed => .closed

def Session.veil (s : Session) : Session :=
  { s with phase := s.phase.veil, dispatches := s.dispatches.map Dispatch.veil }

/-- The header that carries a secret, with the secret that stands for all. -/
def veilHeader (header : String × String) : String × String :=
  if header.1 = "authorization" then (header.1, "Bearer ")
  else if header.1 = "x-api-key" then (header.1, "")
  else header

def HttpRequest.veil (r : HttpRequest) : HttpRequest :=
  { r with headers := r.headers.map veilHeader }

def Line.veil (line : Line) : Line :=
  { line with arrived := line.arrived.map HttpRequest.veil }

def Station.veil (x : Station) : Station :=
  ⟨x.session.veil, x.line.veil⟩

def Answer.veil : Answer → Answer
  | .config result => .config (result.map Config.veil)
  | .call progress => .call progress.veil
  | answer => answer

def Dealings.veil (x : Dealings) : Dealings :=
  ⟨x.station.veil, x.answers.map Answer.veil⟩

def Operation.veil : Operation → Operation
  | .reload next => .reload next.veil
  | .reply w ask => .reply w.veil ask
  | op => op

def Move.veil : Move → Move
  | .reply n ask => .reply n ask
  | .operate op => .operate op.veil

/-! ### What the exchange leaves as it is -/

section

variable {α : Type} (g : Gateway α)

@[simp] theorem Gateway.registry_veil : g.veil.registry = g.registry := rfl
@[simp] theorem Gateway.pricing_veil : g.veil.pricing = g.pricing := rfl
@[simp] theorem Gateway.env_veil : g.veil.env = g.env.veil := rfl

end

@[simp] theorem Call.key_veil (call : Call) : call.veil.key = call.key := rfl
@[simp] theorem Call.config_veil (call : Call) : call.veil.config = call.config.veil := rfl
@[simp] theorem Call.request_veil (call : Call) : call.veil.request = call.request := rfl

@[simp] theorem Session.phase_veil (s : Session) : s.veil.phase = s.phase.veil := rfl
@[simp] theorem Session.revocations_veil (s : Session) : s.veil.revocations = s.revocations := rfl
@[simp] theorem Session.store_veil (s : Session) : s.veil.store = s.store := rfl
@[simp] theorem Session.faults_veil (s : Session) : s.veil.faults = s.faults := rfl
@[simp] theorem Session.now_veil (s : Session) : s.veil.now = s.now := rfl

/-! ## Calls -/

/-- The secret of a provider, wherever it is found. -/
theorem apiKeyFor?_veil (c : Config) (env : Environment) (provider : String) :
    c.veil.apiKeyFor? env.veil provider = (c.apiKeyFor? env provider).map veilSecret := by
  simp only [Config.apiKeyFor?, Config.veil, Environment.veil, Environment.get?, Dict.get?_map]
  cases c.apiKeys.get? provider with
  | some secret => rfl
  | none =>
    split
    · simp
    · rfl

section Calls

variable {α : Type} (g : Gateway α)

theorem reach_veil (c : Config) (candidate : String) :
    g.veil.reach c.veil candidate =
      (g.reach c candidate).map fun target => (target.1, veilSecret target.2) := by
  have default : c.veil.defaultProvider = c.defaultProvider := rfl
  simp only [Gateway.reach, Gateway.registry_veil, Gateway.env_veil, apiKeyFor?_veil, default]
  cases Route.of? g.registry c.defaultProvider candidate with
  | none => rfl
  | some route =>
    dsimp only
    cases g.registry.get? route.provider with
    | none => rfl
    | some p => cases c.apiKeyFor? g.env route.provider <;> rfl

theorem reserve_veil (s : Session) (c : Config) (key : String) (tokens cost : UInt64) :
    s.veil.reserve c.veil key tokens cost =
      ((s.reserve c key tokens cost).1, (s.reserve c key tokens cost).2.veil) := by
  have limits : c.veil.quotaFor key = c.quotaFor key := rfl
  simp only [Session.reserve, Session.enter, Session.faults_veil, Session.store_veil,
    Session.now_veil, limits]
  cases s.faults .reserve <;> rfl

theorem record_veil (s : Session) (r : Reservation) (tokens cost : UInt64) :
    s.veil.record r tokens cost = (s.record r tokens cost).veil := by
  simp only [Session.record, Session.enter, Session.faults_veil, Session.store_veil,
    Session.now_veil]
  cases s.faults .reconcile <;> rfl

theorem dispatch_veil (s : Session) (d : Dispatch) :
    s.veil.dispatch d.veil = (s.dispatch d).veil := by
  simp [Session.dispatch, Session.veil]

theorem walk_veil (call : Call) (trail : Trail) (s : Session) (candidates : List String) :
    g.veil.walk call.veil trail s.veil candidates =
      ((g.walk call trail s candidates).1.veil, (g.walk call trail s candidates).2.veil) := by
  induction candidates generalizing trail s with
  | nil => rfl
  | cons candidate rest ih =>
    simp only [Gateway.walk, Call.config_veil, reach_veil]
    cases g.reach call.config candidate with
    | error fault => exact ih _ _
    | ok target =>
      obtain ⟨route, secret⟩ := target
      simp only [Except.map, Call.key_veil, Call.request_veil, Gateway.pricing_veil, reserve_veil]
      -- from here on, the session matters only through the store's answer and what follows it
      generalize s.reserve call.config call.key _ _ = x
      obtain ⟨answer, s'⟩ := x
      cases answer with
      | error e => rfl
      | ok admission =>
        cases admission with
        | deny d => exact ih _ s'
        | allow r =>
          exact Prod.ext rfl (dispatch_veil s' ⟨route.provider, secret, call.requestTo route⟩)

theorem open?_veil (s : Session) (key model : String) (messages : List Message)
    (temperature : Option Binary) (maxTokens : Option UInt32) :
    s.veil.open? key model messages temperature maxTokens =
      (s.open? key model messages temperature maxTokens).map Call.veil := by
  simp only [Session.open?, Session.config, Session.phase_veil, Session.revocations_veil]
  cases s.phase with
  | ready config => dsimp only [Phase.veil]; cases s.revocations.get? key <;> rfl
  | uninitialized => rfl
  | closed => rfl

theorem chat_veil (s : Session) (key model : String) (messages : List Message)
    (temperature : Option Binary) (maxTokens : Option UInt32) :
    g.veil.chat s.veil key model messages temperature maxTokens =
      ((g.chat s key model messages temperature maxTokens).1.veil,
        (g.chat s key model messages temperature maxTokens).2.veil) := by
  rw [Gateway.chat_eq, Gateway.chat_eq, open?_veil]
  cases s.open? key model messages temperature maxTokens with
  | error e => rfl
  | ok call => exact walk_veil g call {} s call.candidates

theorem answer_veil (w : Waiting) (reply : Except ProviderError ChatResponse)
    (latencyMs : UInt64) (s : Session) :
    g.veil.answer w.veil reply latencyMs s.veil =
      ((g.answer w reply latencyMs s).1.veil, (g.answer w reply latencyMs s).2.veil) := by
  cases reply with
  | ok response =>
    have billed : g.veil.bill w.veil response = g.bill w response := rfl
    have kept : w.veil.reservation = w.reservation := rfl
    rw [answer_ok, answer_ok, billed, kept, record_veil]
    rfl
  | error e =>
    cases passes : e.retryable with
    | true =>
      rw [Gateway.answer_of_retryable passes, Gateway.answer_of_retryable passes]
      exact walk_veil g _ _ s _
    | false =>
      rw [Gateway.answer_of_fatal passes, Gateway.answer_of_fatal passes]
      rfl

theorem atTime_veil (s : Session) (now : Instant) : s.veil.atTime now = (s.atTime now).veil :=
  rfl

end Calls

/-! ## Operations -/

/-- Providers whose replies are the same whatever the secret. -/
def Providers.Blind (ask : Providers Line) : Prop :=
  ∀ line now d, ask line.veil now d.veil = ((ask line now d).1, (ask line now d).2.veil)

/-- An operation in which no provider tells secrets apart. -/
def Operation.Blind : Operation → Prop
  | .reply _ ask => ask.Blind
  | _ => True

section Operations

variable {α : Type} (g : Gateway α)

theorem config_veil (s : Session) : s.veil.config = s.config.map Config.veil := by
  simp only [Session.config, Session.phase_veil]
  cases s.phase <;> rfl

theorem usage_veil (s : Session) (key : String) :
    s.veil.usage key = ((s.usage key).1, (s.usage key).2.veil) := by
  simp only [Session.usage, config_veil, Session.enter, Session.faults_veil]
  cases s.config with
  | error e => rfl
  | ok config => dsimp only [Except.map]; cases s.faults .usage <;> rfl

theorem operate_veil (x : Station) {op : Operation} (blind : op.Blind) :
    g.veil.operate x.veil op.veil = ((g.operate x op).1.veil, (g.operate x op).2.veil) := by
  cases op with
  | beginInit =>
    obtain ⟨⟨phase, underway⟩, line⟩ := x
    cases underway <;> cases phase <;> rfl
  | finishInit fault =>
    obtain ⟨⟨phase, underway⟩, line⟩ := x
    cases underway with
    | none => rfl
    | some m => cases m <;> cases fault <;> rfl
  | beginClose =>
    obtain ⟨⟨phase, underway⟩, line⟩ := x
    cases underway <;> cases phase <;> rfl
  | finishClose fault =>
    obtain ⟨⟨phase, underway⟩, line⟩ := x
    cases underway with
    | none => rfl
    | some m => cases m <;> cases fault <;> rfl
  | reload next =>
    obtain ⟨⟨phase⟩, line⟩ := x
    cases phase <;> rfl
  | applyPolicy u =>
    obtain ⟨⟨phase⟩, line⟩ := x
    cases phase <;> rfl
  | config =>
    exact Prod.ext (congrArg Answer.config (config_veil x.session)) rfl
  | usage key =>
    simp only [Operation.veil, Gateway.operate, Station.veil, usage_veil]
    rfl
  | chat key model messages temperature maxTokens =>
    simp only [Operation.veil, Gateway.operate, Station.veil, chat_veil]
    rfl
  | reply w ask =>
    have asked : ask x.line.veil x.session.now w.dispatch.veil = _ :=
      blind x.line x.session.now w.dispatch
    have put : w.veil.dispatch = w.dispatch.veil := rfl
    simp only [Operation.veil, Gateway.operate, Station.veil, Session.now_veil, put, asked,
      atTime_veil, answer_veil]
    rfl
  | outside now store faults => rfl

/-- A move in which no provider tells secrets apart. -/
def Move.Blind : Move → Prop
  | .reply _ ask => ask.Blind
  | .operate op => op.Blind

theorem operation?_veil (x : Dealings) (move : Move) :
    x.veil.operation? move.veil = (x.operation? move).map Operation.veil := by
  cases move with
  | operate op => rfl
  | reply n ask =>
    simp only [Move.veil, Dealings.operation?, Dealings.veil, List.getElem?_map]
    cases x.answers[n]? with
    | none => rfl
    | some answer =>
      cases answer with
      | call progress => cases progress <;> rfl
      | _ => rfl

theorem Move.Blind.of_operation? {x : Dealings} {move : Move} {op : Operation}
    (blind : move.Blind) (stands : x.operation? move = some op) : op.Blind := by
  cases move with
  | operate op' =>
    obtain rfl := Option.some.inj stands
    exact blind
  | reply n ask =>
    simp only [Dealings.operation?] at stands
    split at stands
    · obtain rfl := Option.some.inj stands
      exact blind
    · cases stands

theorem deal_veil (x : Dealings) {move : Move} (blind : move.Blind) :
    g.veil.deal x.veil move.veil = (g.deal x move).veil := by
  simp only [Gateway.deal, operation?_veil]
  cases stands : x.operation? move with
  | none => rfl
  | some op =>
    have operated := operate_veil g x.station (blind.of_operation? stands)
    simp only [Option.map_some, Dealings.veil, operated, List.map_append, List.map_cons,
      List.map_nil]

/-- **The exchange of secrets commutes with whole runs.** -/
theorem dealings_veil (x : Dealings) {moves : List Move} (blind : ∀ move ∈ moves, move.Blind) :
    g.veil.dealings x.veil (moves.map Move.veil) = (g.dealings x moves).veil := by
  induction moves generalizing x with
  | nil => rfl
  | cons move moves ih =>
    obtain ⟨head, tail⟩ := List.forall_mem_cons.1 blind
    rw [List.map_cons, Gateway.dealings_cons, Gateway.dealings_cons, deal_veil g x head]
    exact ih _ tail

end Operations

/-! ## Upstreams -/

/-- How a provider is reached for one reply, and what answers there. -/
structure Upstream where
  /-- What comes of a sending: it may depend on the requests that have arrived, on the request
  that is sent, and on how often anything was sent before. -/
  deliver : List HttpRequest → HttpRequest → Nat → Delivery
  repeats : Nat := defaultRepeats
  /-- The time on the clock that only goes forward. -/
  now : Nat
  latencyMs : UInt64
  /-- The time at which the reply has come. -/
  time : Instant

/-- What comes of a sending does not depend on the header that carries the secret. -/
def Upstream.Blind (u : Upstream) : Prop :=
  ∀ arrived request,
    u.deliver (arrived.map HttpRequest.veil) request.veil = u.deliver arrived request

section Upstreams

variable (g : Gateway Endpoint)

/-- The request that is sent for a dispatch, if one can be. -/
def Gateway.wire? (d : Dispatch) : Option HttpRequest :=
  (g.registry.get? d.provider).bind fun p => p.adapter.request? d.secret d.request

/-- What comes of the sendings for a dispatch. -/
def Gateway.deliveries (u : Upstream) (line : Line) (d : Dispatch) : Nat → Delivery :=
  match g.wire? d with
  | some request => u.deliver line.arrived request
  | none => fun _ => .failed .unconnected

/-- The providers behind an upstream. -/
def Gateway.over (u : Upstream) : Providers Line :=
  fun line _ d =>
    let asked := g.ask u.repeats (g.deliveries u line d) u.now line d
    (⟨asked.1, u.latencyMs, u.time⟩, asked.2)

/-- Whether there is a request for a secret depends on no more than the exchange keeps. -/
theorem request?_veil (e : Endpoint) (secret : String) (r : ChatRequest) :
    e.request? (veilSecret secret) r = (e.request? secret r).map HttpRequest.veil := by
  simp only [Endpoint.request?, Dialect.headers?, isHeaderValue_veilSecret]
  cases legal : isHeaderValue secret with
  | false => rfl
  | true =>
    have stands : veilSecret secret = "" := by simp only [veilSecret, legal, if_true]
    rw [stands]
    cases e.dialect <;> rfl

theorem wire?_veil (d : Dispatch) : g.wire? d.veil = (g.wire? d).map HttpRequest.veil := by
  simp only [Gateway.wire?, Dispatch.veil]
  cases g.registry.get? d.provider with
  | none => rfl
  | some p => exact request?_veil p.adapter d.secret d.request

theorem deliveries_veil {u : Upstream} (blind : u.Blind) (line : Line) (d : Dispatch) :
    g.deliveries u line.veil d.veil = g.deliveries u line d := by
  simp only [Gateway.deliveries, wire?_veil]
  cases g.wire? d with
  | none => rfl
  | some request => exact blind line.arrived request

theorem post_veil {α : Type} (line : Line) (dec : Decoder α) (repeats : Nat)
    (network : Nat → Delivery) (now : Nat) (provider : String) (request : HttpRequest) :
    line.veil.post dec repeats network now provider request.veil =
      ((line.post dec repeats network now provider request).1,
        (line.post dec repeats network now provider request).2.veil) := by
  have same : exchange dec repeats (fun i => network (line.veil.sendings + i)) line.veil.cooldowns
      now provider request.veil =
      exchange dec repeats (fun i => network (line.sendings + i)) line.cooldowns now provider
        request := rfl
  simp only [Line.post, same]
  simp [Line.after, Line.veil]

theorem ask_veil (repeats : Nat) (network : Nat → Delivery) (now : Nat) (line : Line)
    (d : Dispatch) :
    g.ask repeats network now line.veil d.veil =
      ((g.ask repeats network now line d).1, (g.ask repeats network now line d).2.veil) := by
  simp only [Gateway.ask, Dispatch.veil]
  cases g.registry.get? d.provider with
  | none => rfl
  | some p =>
    simp only [Line.call, request?_veil]
    cases p.adapter.request? d.secret d.request with
    | none => rfl
    | some request => simp only [Option.map_some, post_veil]

/-- An upstream that does not look at secrets makes providers that tell none apart. -/
theorem blind_over {u : Upstream} (blind : u.Blind) : (g.over u).Blind := by
  intro line now d
  simp only [Gateway.over, deliveries_veil g blind, ask_veil]

end Upstreams

/-! ## Two runs -/

/-- Two configurations differ at most in their secrets: the same providers have one, and can
be sent either both or neither. -/
structure Config.SameButSecrets (c c' : Config) : Prop where
  routingRules_eq : c'.routingRules = c.routingRules
  quotas_eq : c'.quotas = c.quotas
  modelAliases_eq : c'.modelAliases = c.modelAliases
  defaultProvider_eq : c'.defaultProvider = c.defaultProvider
  legal_eq (provider : String) : (c'.apiKeys.get? provider).map isHeaderValue =
    (c.apiKeys.get? provider).map isHeaderValue

/-- Two moves are the same, but for the secrets in a configuration that is loaded.  Replies
come from upstreams that do not look at secrets. -/
inductive Move.SameButSecrets (g : Gateway Endpoint) : Move → Move → Prop
  | reply (n : Nat) (u : Upstream) (blind : u.Blind) :
    SameButSecrets g (.reply n (g.over u)) (.reply n (g.over u))
  | reload {c c' : Config} (same : c.SameButSecrets c') :
    SameButSecrets g (.operate (.reload c)) (.operate (.reload c'))
  | operate (op : Operation) (noReply : ∀ w ask, op ≠ .reply w ask) :
    SameButSecrets g (.operate op) (.operate op)

theorem Config.SameButSecrets.veil_eq {c c' : Config} (same : c.SameButSecrets c') :
    c'.veil = c.veil := by
  have secrets : c'.apiKeys.map veilSecret = c.apiKeys.map veilSecret := by
    refine Dict.ext_get? fun provider => ?_
    have legal := same.legal_eq provider
    rw [Dict.get?_map, Dict.get?_map]
    cases held : c.apiKeys.get? provider <;> cases held' : c'.apiKeys.get? provider <;>
      simp only [held, held', Option.map_none, Option.map_some, Option.some.injEq,
        reduceCtorEq] at legal
    · rfl
    · exact congrArg some (veilSecret_congr legal)
  simp only [Config.veil, secrets, same.routingRules_eq, same.quotas_eq, same.modelAliases_eq,
    same.defaultProvider_eq]

theorem Move.SameButSecrets.blind {g : Gateway Endpoint} {move move' : Move}
    (same : move.SameButSecrets g move') : move.Blind ∧ move'.Blind := by
  cases same with
  | reply n u blind => exact ⟨blind_over g blind, blind_over g blind⟩
  | reload same => exact ⟨trivial, trivial⟩
  | operate op noReply =>
    cases op with
    | reply w ask => exact absurd rfl (noReply w ask)
    | _ => exact ⟨trivial, trivial⟩

theorem Move.SameButSecrets.veil_eq {g : Gateway Endpoint} {move move' : Move}
    (same : move.SameButSecrets g move') : move'.veil = move.veil := by
  cases same with
  | reload same => exact congrArg (fun c => Move.operate (.reload c)) same.veil_eq
  | _ => rfl

/-- What an answer shows: of a configuration its description, and of a call that waits
nothing. -/
inductive Report where
  | silent
  | done (result : Except GatewayError Unit)
  | config (result : Except GatewayError String)
  | usage (result : Except GatewayError (Option QuotaUsage))
  | waiting
  | outcome (result : Except GatewayError ChatResponse)

/-- The report of an answer. -/
def Answer.report : Answer → Report
  | silent => .silent
  | done result => .done result
  | config result => .config (result.map Config.description)
  | usage result => .usage result
  | call (.waiting _) => .waiting
  | call (.done outcome) => .outcome outcome

/-- All that two gateways report is the same: their answers, with each error as a whole, and
their descriptions; and then the figures of all keys, the events, the cooldowns, and what
arrived at providers but for the secrets. -/
structure Dealings.ReportAlike {α : Type} (g g' : Gateway α) (x x' : Dealings) : Prop where
  answers_eq : x'.answers.map Answer.report = x.answers.map Answer.report
  description_eq : g'.description x'.station.session = g.description x.station.session
  usage_eq (key : String) :
    (x'.station.session.usage key).1 = (x.station.session.usage key).1
  store_eq : x'.station.session.store = x.station.session.store
  revocations_eq : x'.station.session.revocations = x.station.session.revocations
  events_eq : x'.station.session.events = x.station.session.events
  cooldowns_eq : x'.station.line.cooldowns = x.station.line.cooldowns
  sendings_eq : x'.station.line.sendings = x.station.line.sendings
  arrived_eq : x'.station.line.arrived.map HttpRequest.veil =
    x.station.line.arrived.map HttpRequest.veil

/-- A description has no secret in it. -/
theorem description_veil (c : Config) : c.veil.description = c.description := by
  have names : (c.apiKeys.map veilSecret).map (fun _ => Text.quoted "<redacted>") =
      c.apiKeys.map fun _ => Text.quoted "<redacted>" :=
    Dict.ext_get? fun provider => by
      simp only [Dict.get?_map]
      cases c.apiKeys.get? provider <;> rfl
  simp only [Config.description, Config.veil, names]

theorem report_veil (answer : Answer) : answer.veil.report = answer.report := by
  cases answer with
  | config result =>
    cases result with
    | error e => rfl
    | ok c => exact congrArg (fun text => Report.config (.ok text)) (description_veil c)
  | call progress => cases progress <;> rfl
  | _ => rfl

/-- What is the same after the exchange of secrets has reported the same. -/
theorem reportAlike_of_veil_eq {α : Type} {g g' : Gateway α} {x x' : Dealings}
    (registry : g'.registry = g.registry) (same : x'.veil = x.veil) :
    Dealings.ReportAlike g g' x x' := by
  have station : x'.station.veil = x.station.veil := congrArg Dealings.station same
  have session : x'.station.session.veil = x.station.session.veil :=
    congrArg Station.session station
  have line : x'.station.line.veil = x.station.line.veil := congrArg Station.line station
  constructor
  case answers_eq =>
    have reports (y : Dealings) :
        y.answers.map Answer.report = y.veil.answers.map Answer.report := by
      simp [Dealings.veil, report_veil]
    rw [reports x', reports x, same]
  case description_eq =>
    have name (s : Session) : s.phase.name = s.veil.phase.name := by
      rw [Session.phase_veil]
      cases s.phase <;> rfl
    rw [Gateway.description, Gateway.description, name, name x.station.session, session, registry]
  case usage_eq =>
    intro key
    have usage (s : Session) : (s.usage key).1 = (s.veil.usage key).1 := by rw [usage_veil]
    rw [usage, usage x.station.session, session]
  case store_eq => exact (congrArg Session.store session :)
  case revocations_eq => exact (congrArg Session.revocations session :)
  case events_eq => exact (congrArg Session.events session :)
  case cooldowns_eq => exact (congrArg Line.cooldowns line :)
  case sendings_eq => exact (congrArg Line.sendings line :)
  case arrived_eq => exact congrArg Line.arrived line

/-- **Secrets stay unseen.**  Take two configurations that differ at most in their secrets, and
let two gateways set out with them from one station and make the same moves, with any calls
under way at once, over upstreams that do not look at the secret.  Then the descriptions of the
configurations and of whoever holds them are the same, and so is all that the gateways
report. -/
theorem secrets_unseen (g : Gateway Endpoint) {c c' : Config} (same : c.SameButSecrets c')
    (start : Station) {moves moves' : List Move}
    (alike : List.Forall₂ (Move.SameButSecrets g) moves moves') :
    c'.description = c.description ∧ c'.builderDescription = c.builderDescription ∧
      c'.loaderDescription = c.loaderDescription ∧
      Dealings.ReportAlike { g with config := c } { g with config := c' }
        (Gateway.dealings { g with config := c } ⟨start, []⟩ moves)
        (Gateway.dealings { g with config := c' } ⟨start, []⟩ moves') := by
  have description : c'.description = c.description := by
    rw [← description_veil c', same.veil_eq, description_veil]
  have gateways : Gateway.veil { g with config := c' } = Gateway.veil { g with config := c } := by
    simp only [Gateway.veil, same.veil_eq]
  have moved : moves'.map Move.veil = moves.map Move.veil ∧
      (∀ move ∈ moves, move.Blind) ∧ ∀ move ∈ moves', move.Blind := by
    induction alike with
    | nil => exact ⟨rfl, by simp, by simp⟩
    | cons head tail ih =>
      obtain ⟨veils, blind, blind'⟩ := ih
      exact ⟨by rw [List.map_cons, List.map_cons, head.veil_eq, veils],
        List.forall_mem_cons.2 ⟨head.blind.1, blind⟩,
        List.forall_mem_cons.2 ⟨head.blind.2, blind'⟩⟩
  obtain ⟨veils, blind, blind'⟩ := moved
  refine ⟨description, by simp only [Config.builderDescription, Config.holderDescription,
    description], by simp only [Config.loaderDescription, Config.holderDescription, description],
    reportAlike_of_veil_eq rfl ?_⟩
  rw [← dealings_veil _ _ blind, ← dealings_veil _ _ blind', gateways, veils]

/-- A model that two providers may serve, one in each dialect. -/
def pairedGateway : Gateway Endpoint where
  config := {}
  registry := .ofList [compatible "p" "http://h" [], ⟨"q", fun _ => false, ⟨.messages, "http://h"⟩⟩]

/-- The secrets of the two. -/
def pairedConfig (secret secret' : String) : Config where
  apiKeys := .ofList [("p", secret), ("q", secret')]
  routingRules := [⟨"r", 0, ["p/a", "q/b"]⟩]

/-- Whatever is asked is too much; the answer says how much was asked before. -/
def limitedUpstream : Upstream where
  deliver arrived _ sendings :=
    .answered ⟨429, ["30"], [115, 48 + (arrived.length + sendings).toUInt8], 7⟩
  now := 7
  latencyMs := 1
  time := .epoch

/-- A call is answered by the upstream; the provider that it falls back to has a secret that
cannot be sent. -/
def pairedMoves : List Move :=
  [.operate .beginInit, .operate (.finishInit none), .operate (.chat "k" "p/a" [] none none),
    .operate .config, .reply 2 (pairedGateway.over limitedUpstream),
    .reply 4 (pairedGateway.over limitedUpstream)]

theorem secrets_unseen_paired :
    (pairedConfig "one" "\x01").SameButSecrets (pairedConfig "another" "\x7f") ∧
      List.Forall₂ (Move.SameButSecrets pairedGateway) pairedMoves pairedMoves ∧
      Dealings.ReportAlike { pairedGateway with config := pairedConfig "one" "\x01" }
        { pairedGateway with config := pairedConfig "another" "\x7f" }
        (Gateway.dealings { pairedGateway with config := pairedConfig "one" "\x01" } ⟨{}, []⟩
          pairedMoves)
        (Gateway.dealings { pairedGateway with config := pairedConfig "another" "\x7f" } ⟨{}, []⟩
          pairedMoves) ∧
      (Gateway.dealings { pairedGateway with config := pairedConfig "one" "\x01" } ⟨{}, []⟩
          pairedMoves).lastMessage? =
        some ("Aborted on 'q/b': fatal error from 'q': Invalid API key format: "
          ++ "failed to parse header value; earlier attempts: "
          ++ "p/a -> retryable error from 'p' (status 429): s0") := by
  have same : (pairedConfig "one" "\x01").SameButSecrets (pairedConfig "another" "\x7f") := by
    refine ⟨rfl, rfl, rfl, rfl, fun provider => ?_⟩
    by_cases first : provider = "p"
    · subst first
      decide
    · by_cases second : provider = "q"
      · subst second
        decide
      · simp [pairedConfig, Dict.ofList, Dict.get?_insert, first, second]
  have alike : List.Forall₂ (Move.SameButSecrets pairedGateway) pairedMoves pairedMoves := by
    have blind : limitedUpstream.Blind := fun arrived request => by
      funext sendings
      simp [limitedUpstream]
    refine .cons (.operate .beginInit ?_) (.cons (.operate (.finishInit none) ?_)
      (.cons (.operate (.chat "k" "p/a" [] none none) ?_) (.cons (.operate .config ?_)
      (.cons (.reply 2 _ blind) (.cons (.reply 4 _ blind) .nil))))) <;> intro w ask reply <;>
      cases reply
  obtain ⟨-, -, -, reports⟩ := secrets_unseen pairedGateway same {} alike
  exact ⟨same, alike, reports, by decide +kernel⟩

end ChatGateway

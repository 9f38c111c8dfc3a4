import ChatGateway.Session.Call

/-!
# One candidate after another

A call looks at its candidates in order.  Each is unroutable, denied, or admitted,
and only an admitted one ends the walk.  Nothing here unfolds a walk again: the
three equations say what one candidate does, and the frame says what a walk leaves
alone.

The store is taken to be one in memory, so no call of it fails.

## Main definitions

* `Session.open?` — the call that a caller begins, unless it is refused.
* `Gateway.askStore` — what the store answers to a candidate that has a route.
* `Session.Working` — no operation of the store fails.
* `walk_of_unroutable`, `walk_of_denied`, `walk_of_admitted` — one candidate.
-/

namespace ChatGateway

/-! ## Beginning a call -/

/-- The candidates of a call. -/
def Call.candidates (call : Call) : List String :=
  selectCandidates call.config.routingRules call.canonicalModel

/-- The call that a caller begins, or why it is refused. -/
def Session.open? (s : Session) (key model : String) (messages : List Message)
    (temperature : Option Binary) (maxTokens : Option UInt32) : Except GatewayError Call :=
  match s.config with
  | .error e => .error e
  | .ok config =>
    match s.revocations.get? key with
    | some reason => .error (.keyRevoked key reason)
    | none =>
      .ok ⟨key, model, resolveAlias config.modelAliases model, config,
        ⟨"", messages, temperature, maxTokens⟩⟩

/-! ## What a candidate asks for -/

/-- The request that is put to the provider of a route. -/
def Call.requestTo (call : Call) (route : Route) : ChatRequest :=
  { call.request with model := route.model }

/-- The tokens that a route is expected to consume. -/
def Call.tokensFor (call : Call) (route : Route) : UInt64 :=
  (call.requestTo route).estimatedTokens

/-- No operation of the store fails. -/
def Session.Working (s : Session) : Prop :=
  ∀ m, s.faults m = none

/-- The session after the store was asked to admit a call. -/
def Session.asked (s : Session) (store : QuotaStore) : Session :=
  { s with storeCalls := s.storeCalls ++ [.reserve], store := store }

/-- The session after a request was handed to a provider. -/
def Session.dispatch (s : Session) (d : Dispatch) : Session :=
  { s with dispatches := s.dispatches ++ [d] }

/-- The session after an event was left. -/
def Session.emit (s : Session) (e : UsageEvent) : Session :=
  { s with events := s.events.record e }

@[simp] theorem Session.store_asked (s : Session) (store : QuotaStore) :
    (s.asked store).store = store := rfl
@[simp] theorem Session.store_dispatch (s : Session) (d : Dispatch) :
    (s.dispatch d).store = s.store := rfl

theorem Session.Working.asked {s : Session} (h : s.Working) (store : QuotaStore) :
    (s.asked store).Working := h

/-- The request that a call waits for, if it waits. -/
def Progress.dispatches : Progress → List Dispatch
  | .done _ => []
  | .waiting w => [w.dispatch]

namespace Gateway

variable {α : Type} (g : Gateway α)

/-- The cents that a route is expected to cost. -/
def centsFor (call : Call) (route : Route) : UInt64 :=
  g.pricing.estimate route.model (call.tokensFor route)

/-- What the store answers to a candidate that has a route, and the store after. -/
def askStore (call : Call) (route : Route) (now : Instant) (store : QuotaStore) :
    Admission × QuotaStore :=
  store.reserve call.key (call.config.quotaFor call.key) (windowOf now) (call.tokensFor route)
    (g.centsFor call route)

/-- A call that waits for the provider of a candidate. -/
def waitingOn (call : Call) (trail : Trail) (candidate : String) (route : Route) (secret : String)
    (r : Reservation) (rest : List String) : Waiting where
  call := call
  trail := trail
  candidate := candidate
  route := route
  dispatch := ⟨route.provider, secret, call.requestTo route⟩
  estimatedTokens := call.tokensFor route
  estimatedCost := g.centsFor call route
  reservation := r
  rest := rest

/-- A call that is not refused walks over its candidates. -/
theorem chat_eq (s : Session) (key model : String) (messages : List Message)
    (temperature : Option Binary) (maxTokens : Option UInt32) :
    g.chat s key model messages temperature maxTokens =
      match s.open? key model messages temperature maxTokens with
      | .error e => (.done (.error e), s)
      | .ok call => g.walk call {} s call.candidates := by
  unfold chat Session.open?
  cases s.config with
  | error e => rfl
  | ok config =>
    cases s.revocations.get? key with
    | some reason => rfl
    | none => rfl

/-! ## One candidate -/

variable {g} {call : Call} {trail : Trail} {s : Session} {candidate : String} {rest : List String}

theorem walk_nil : g.walk call trail s [] =
    (.done (.error (.exhausted trail.attempts trail.last)), s) :=
  rfl

/-- A candidate that leads nowhere is left without asking the store. -/
theorem walk_of_unroutable {fault : RoutingFault}
    (h : g.reach call.config candidate = .error fault) :
    g.walk call trail s (candidate :: rest) =
      g.walk call (trail.push candidate (.unroutable fault)) s rest := by
  simp [walk, h]

theorem reserve_of_working (working : s.Working) (route : Route) :
    s.reserve call.config call.key (call.tokensFor route) (g.centsFor call route) =
      (.ok (g.askStore call route s.now s.store).1,
        s.asked (g.askStore call route s.now s.store).2) := by
  simp [Session.reserve, Session.enter, Session.asked, askStore, working .reserve]

/-- A candidate that the store denies is left with the store's reason. -/
theorem walk_of_denied (working : s.Working) {route : Route} {secret : String} {d : Denial}
    {store : QuotaStore} (h : g.reach call.config candidate = .ok (route, secret))
    (denied : g.askStore call route s.now s.store = (.deny d, store)) :
    g.walk call trail s (candidate :: rest) =
      g.walk call (trail.push candidate (.denied d)) (s.asked store) rest := by
  have answer : s.reserve call.config call.key (call.tokensFor route) (g.centsFor call route) =
      (.ok (g.askStore call route s.now s.store).1,
        s.asked (g.askStore call route s.now s.store).2) := reserve_of_working working route
  rw [denied] at answer
  simp only [Call.tokensFor, centsFor, Call.requestTo] at answer
  simp only [walk, h, answer]

/-- A candidate that the store admits is asked, and the call waits for it. -/
theorem walk_of_admitted (working : s.Working) {route : Route} {secret : String} {r : Reservation}
    {store : QuotaStore} (h : g.reach call.config candidate = .ok (route, secret))
    (admitted : g.askStore call route s.now s.store = (.allow r, store)) :
    g.walk call trail s (candidate :: rest) =
      (.waiting (g.waitingOn call trail candidate route secret r rest),
        (s.asked store).dispatch ⟨route.provider, secret, call.requestTo route⟩) := by
  have answer : s.reserve call.config call.key (call.tokensFor route) (g.centsFor call route) =
      (.ok (g.askStore call route s.now s.store).1,
        s.asked (g.askStore call route s.now s.store).2) := reserve_of_working working route
  rw [admitted] at answer
  simp only [Call.tokensFor, centsFor, Call.requestTo] at answer
  simp only [walk, h, answer]
  rfl

/-- The cases of a walk: no candidate is left, or the next one is unroutable, denied
or admitted. -/
@[elab_as_elim]
theorem walk_induction (g : Gateway α) (call : Call) {P : Trail → Session → List String → Prop}
    (exhausted : ∀ trail s, P trail s [])
    (unroutable : ∀ trail s candidate rest fault,
      g.reach call.config candidate = .error fault →
      P (trail.push candidate (.unroutable fault)) s rest → P trail s (candidate :: rest))
    (denied : ∀ trail s candidate rest route secret d store,
      g.reach call.config candidate = .ok (route, secret) →
      g.askStore call route s.now s.store = (.deny d, store) →
      P (trail.push candidate (.denied d)) (s.asked store) rest → P trail s (candidate :: rest))
    (admitted : ∀ trail s candidate rest route secret r store,
      g.reach call.config candidate = .ok (route, secret) →
      g.askStore call route s.now s.store = (.allow r, store) → P trail s (candidate :: rest))
    (trail : Trail) (s : Session) (candidates : List String) : P trail s candidates := by
  induction candidates generalizing trail s with
  | nil => exact exhausted trail s
  | cons candidate rest ih =>
    cases reached : g.reach call.config candidate with
    | error fault => exact unroutable trail s candidate rest fault reached (ih _ _)
    | ok target =>
      obtain ⟨route, secret⟩ := target
      rcases asked : g.askStore call route s.now s.store with ⟨answer, store⟩
      cases answer with
      | deny d => exact denied trail s candidate rest route secret d store reached asked (ih _ _)
      | allow r => exact admitted trail s candidate rest route secret r store reached asked

/-! ## A reply -/

variable {w : Waiting} {latencyMs : UInt64}

theorem now_record (working : s.Working) (r : Reservation) (tokens cost : UInt64) :
    (s.record r tokens cost).now = s.now := by
  simp [Session.record, Session.enter, working .reconcile]

theorem store_record (working : s.Working) (r : Reservation) (tokens cost : UInt64) :
    (s.record r tokens cost).store = s.store.reconcile r (windowOf s.now) tokens cost := by
  simp [Session.record, Session.enter, working .reconcile]

theorem events_record (working : s.Working) (r : Reservation) (tokens cost : UInt64) :
    (s.record r tokens cost).events = s.events := by
  simp [Session.record, Session.enter, working .reconcile]

/-- An answer is billed, and ends the call. -/
theorem answer_of_ok (working : s.Working) (response : ChatResponse) :
    g.answer w (.ok response) latencyMs s =
      (.done (.ok response),
        (s.record w.reservation (g.bill w response).1 (g.bill w response).2).emit
          (g.event w response latencyMs s.now)) := by
  simp only [answer, Session.emit]
  rw [now_record working]

/-- After a failure that may pass, the call goes on with the next candidate. -/
theorem answer_of_retryable {e : ProviderError} (h : e.retryable = true) :
    g.answer w (.error e) latencyMs s =
      g.walk w.call (w.trail.push w.candidate (.provider e)) s w.rest := by
  simp only [answer, h, if_true]

/-- A failure that will not pass ends the call. -/
theorem answer_of_fatal {e : ProviderError} (h : e.retryable = false) :
    g.answer w (.error e) latencyMs s =
      (.done (.error (.aborted w.candidate e w.trail.attempts)), s) := by
  simp only [answer, h, if_false, Bool.false_eq_true]

/-! ## What a walk leaves alone -/

variable (g call)

/-- A walk changes the store and adds the request that it ends with; apart from the
note that the store was called, nothing else changes. -/
theorem walk_frame {s : Session} (working : s.Working) (trail : Trail) (candidates : List String) :
    (g.walk call trail s candidates).2 =
      { s with
        store := (g.walk call trail s candidates).2.store
        storeCalls := (g.walk call trail s candidates).2.storeCalls
        dispatches := s.dispatches ++ (g.walk call trail s candidates).1.dispatches } := by
  induction trail, s, candidates using walk_induction g call with
  | exhausted trail s => simp [walk_nil, Progress.dispatches]
  | unroutable trail s candidate rest fault reached ih =>
    rw [walk_of_unroutable reached]
    exact ih working
  | denied trail s candidate rest route secret d store reached asked ih =>
    rw [walk_of_denied working reached asked]
    exact ih (working.asked store)
  | admitted trail s candidate rest route secret r store reached asked =>
    rw [walk_of_admitted working reached asked]
    rfl

theorem events_walk {s : Session} (working : s.Working) (trail : Trail)
    (candidates : List String) : (g.walk call trail s candidates).2.events = s.events := by
  rw [walk_frame g call working]

end Gateway

end ChatGateway

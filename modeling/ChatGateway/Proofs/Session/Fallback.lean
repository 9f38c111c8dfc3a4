import ChatGateway.Proofs.Routing.Candidates
import ChatGateway.Proofs.Session.Walk
import ChatGateway.Session.Service

/-!
# Falling back

A call is taken to its end by providers that answer as they like, and may keep a state of
their own.  Along the way it tries its candidates one by one, and each of them ends up
unroutable, denied, or asked.  What the caller is told in the end is what became of them.

## Main definitions

* `Providers`, `Gateway.converse` — a call to its end.
* `Verdict`, `Leg`, `Tried` — what became of a candidate, and how.
* `Trailed` — candidates that were tried one after another.
* `Ending` — what the caller is told.
* `Passed`, `told_walk` — what a call has behind it, and where it leads.
-/

namespace ChatGateway

variable {α σ : Type}

/-! ## Calls with their providers -/

/-- What a provider replies, and when. -/
structure Turn where
  reply : Except ProviderError ChatResponse
  latencyMs : UInt64
  now : Instant

/-- Providers that reply to a request at some time, from a state of their own. -/
abbrev Providers (σ : Type) : Type :=
  σ → Instant → Dispatch → Turn × σ

/-- The session at another time. -/
def Session.atTime (s : Session) (now : Instant) : Session :=
  { s with now := now }

namespace Gateway

/-- Take a call to its end. -/
def converse (g : Gateway α) (ask : Providers σ) (progress : Progress) (s : Session) (state : σ) :
    Except GatewayError ChatResponse × Session × σ :=
  match progress with
  | .done outcome => (outcome, s, state)
  | .waiting w =>
    let asked := ask state s.now w.dispatch
    let next := g.answer w asked.1.reply asked.1.latencyMs (s.atTime asked.1.now)
    g.converse ask next.1 next.2 asked.2
termination_by progress.remaining
decreasing_by exact g.remaining_answer_lt _ _ _ _

theorem converse_done (g : Gateway α) (ask : Providers σ)
    (outcome : Except GatewayError ChatResponse) (s : Session) (state : σ) :
    g.converse ask (.done outcome) s state = (outcome, s, state) := by
  rw [converse]

theorem converse_waiting (g : Gateway α) {ask : Providers σ} {w : Waiting} {s : Session}
    {state state' : σ} {turn : Turn} (turned : ask state s.now w.dispatch = (turn, state')) :
    g.converse ask (.waiting w) s state =
      g.converse ask (g.answer w turn.reply turn.latencyMs (s.atTime turn.now)).1
        (g.answer w turn.reply turn.latencyMs (s.atTime turn.now)).2 state' := by
  rw [converse, turned]

/-- The providers of a network, with their cooldowns. -/
def overNetwork (g : Gateway Endpoint) (repeats : Nat) (network : Nat → Delivery) (now : Nat) :
    Providers Line :=
  fun line t d =>
    let asked := g.ask repeats network now line d
    (⟨asked.1, 0, t⟩, asked.2)

/-- Serving a call over a network is taking it to its end with those providers. -/
theorem serve_eq_converse (g : Gateway Endpoint) (repeats : Nat) (network : Nat → Delivery)
    (now : Nat) (progress : Progress) (s : Session) (line : Line) :
    g.serve repeats network now progress s line =
      g.converse (g.overNetwork repeats network now) progress s line := by
  fun_induction serve g repeats network now progress s line with
  | case1 s line outcome => exact (g.converse_done _ outcome s line).symm
  | case2 s line w asked next ih =>
    have turned : g.overNetwork repeats network now line s.now w.dispatch =
        (⟨asked.1, 0, s.now⟩, asked.2) := rfl
    rw [g.converse_waiting turned]
    exact ih

end Gateway

/-! ## What becomes of a candidate -/

/-- What became of a candidate. -/
inductive Verdict where
  | unroutable (fault : RoutingFault)
  | denied (d : Denial)
  /-- It was admitted, and its provider asked. -/
  | asked (d : Dispatch) (reply : Except ProviderError ChatResponse)

namespace Verdict

/-- Why a candidate was left for the next one, if it was. -/
def failure? : Verdict → Option AttemptFailure
  | unroutable fault => some (.unroutable fault)
  | denied d => some (.denied d)
  | asked _ (.ok _) => none
  | asked _ (.error e) => if e.retryable then some (.provider e) else none

/-- The request that its provider was asked. -/
def dispatch? : Verdict → Option Dispatch
  | asked d _ => some d
  | _ => none

/-- The operations of the store that were called for it. -/
def methods : Verdict → List StoreMethod
  | unroutable _ => []
  | denied _ => [.reserve]
  | asked _ (.ok _) => [.reserve, .reconcile]
  | asked _ (.error _) => [.reserve]

end Verdict

/-- A candidate that was tried: what became of it, and the session and the providers before
and after. -/
structure Leg (σ : Type) where
  candidate : String
  verdict : Verdict
  before : Session × σ
  after : Session × σ

section Legs

variable (g : Gateway α) (ask : Providers σ) (call : Call)

/-- A call waits for the provider that its candidate leads to. -/
def Gateway.Reaches (g : Gateway α) (call : Call) (w : Waiting) : Prop :=
  ∃ trail secret rest, g.reach call.config w.candidate = .ok (w.route, secret) ∧
    w = g.waitingOn call trail w.candidate w.route secret w.reservation rest

/-- How a candidate comes to its verdict. -/
inductive Tried : Leg σ → Prop
  /-- It leads nowhere, and nothing happens. -/
  | unroutable (candidate : String) (fault : RoutingFault) (x : Session × σ)
    (nowhere : g.reach call.config candidate = .error fault) :
    Tried ⟨candidate, .unroutable fault, x, x⟩
  /-- The store denies it, and its provider is not asked. -/
  | denied (candidate : String) (route : Route) (secret : String) (d : Denial) (store : QuotaStore)
    (s : Session) (state : σ) (reached : g.reach call.config candidate = .ok (route, secret))
    (asked : g.askStore call route s.now s.store = (.deny d, store)) :
    Tried ⟨candidate, .denied d, (s, state), (s.asked store, state)⟩
  /-- It is admitted, and its provider fails. -/
  | failed (w : Waiting) (store : QuotaStore) (s : Session) (state : σ) (turn : Turn) (state' : σ)
    (e : ProviderError) (reached : g.Reaches call w)
    (asked : g.askStore call w.route s.now s.store = (.allow w.reservation, store))
    (turned : ask state s.now w.dispatch = (turn, state')) (replied : turn.reply = .error e) :
    Tried ⟨w.candidate, .asked w.dispatch (.error e), (s, state),
      (((s.asked store).dispatch w.dispatch).atTime turn.now, state')⟩
  /-- It is admitted, and its provider answers.  The answer is billed. -/
  | served (w : Waiting) (store : QuotaStore) (s : Session) (state : σ) (turn : Turn) (state' : σ)
    (response : ChatResponse) (reached : g.Reaches call w)
    (asked : g.askStore call w.route s.now s.store = (.allow w.reservation, store))
    (turned : ask state s.now w.dispatch = (turn, state')) (replied : turn.reply = .ok response) :
    Tried ⟨w.candidate, .asked w.dispatch (.ok response), (s, state),
      (((((s.asked store).dispatch w.dispatch).atTime turn.now).record w.reservation
          (g.bill w response).1 (g.bill w response).2).emit
        (g.event w response turn.latencyMs turn.now), state')⟩

/-- A verdict says what it says exactly if it is so.  Being unroutable changes nothing. -/
structure Leg.Decided (leg : Leg σ) : Prop where
  unroutable_iff : ∀ fault, leg.verdict = .unroutable fault ↔
    g.LeadsNowhere call.config leg.candidate fault
  denied_iff : ∀ d, leg.verdict = .denied d ↔
    ∃ route secret, g.Leads call.config leg.candidate route secret ∧
      (g.askStore call route leg.before.1.now leg.before.1.store).1 = .deny d
  asked_iff : ∀ d reply, leg.verdict = .asked d reply ↔
    ∃ route secret r, g.Leads call.config leg.candidate route secret ∧
      (g.askStore call route leg.before.1.now leg.before.1.store).1 = .allow r ∧
      d = ⟨route.provider, secret, call.requestTo route⟩ ∧
      (ask leg.before.2 leg.before.1.now d).1.reply = reply
  kept : ∀ fault, leg.verdict = .unroutable fault → leg.after = leg.before

variable {g ask call}

/-- An admitted candidate is asked, and nothing else. -/
theorem decided_of_admitted {w : Waiting} {s : Session} {state : σ} {store : QuotaStore}
    {reply : Except ProviderError ChatResponse} (reached : g.Reaches call w)
    (admitted : g.askStore call w.route s.now s.store = (.allow w.reservation, store))
    (replied : (ask state s.now w.dispatch).1.reply = reply) (after : Session × σ) :
    Leg.Decided g ask call ⟨w.candidate, .asked w.dispatch reply, (s, state), after⟩ := by
  obtain ⟨trail, secret, rest, leads, waits⟩ := reached
  have dispatch : w.dispatch = ⟨w.route.provider, secret, call.requestTo w.route⟩ := by
    rw [waits]
    rfl
  constructor
  · simp [← Gateway.reach_eq_error_iff, leads]
  · simp [← Gateway.reach_eq_ok_iff, leads, admitted]
  · intro d reply'
    simp only [← Gateway.reach_eq_ok_iff, leads, Verdict.asked.injEq, Except.ok.injEq,
      Prod.mk.injEq]
    constructor
    · rintro ⟨rfl, rfl⟩
      exact ⟨w.route, secret, w.reservation, ⟨rfl, rfl⟩, by rw [admitted], dispatch, replied⟩
    · rintro ⟨_, _, _, ⟨rfl, rfl⟩, -, d_eq, replied'⟩
      rw [← dispatch] at d_eq
      subst d_eq
      exact ⟨rfl, replied.symm.trans replied'⟩
  · simp

theorem Tried.decided {leg : Leg σ} (h : Tried g ask call leg) : leg.Decided g ask call := by
  cases h with
  | unroutable candidate fault x nowhere =>
    constructor <;> simp [← Gateway.reach_eq_error_iff, ← Gateway.reach_eq_ok_iff, nowhere]
  | denied candidate route secret d store s state reached denied =>
    constructor <;> simp [← Gateway.reach_eq_error_iff, ← Gateway.reach_eq_ok_iff, reached, denied]
  | failed w store s state turn state' e reached admitted turned replied =>
    exact decided_of_admitted reached admitted (by rw [turned, replied]) _
  | served w store s state turn state' response reached admitted turned replied =>
    exact decided_of_admitted reached admitted (by rw [turned, replied]) _

/-- A candidate leaves the store working, was asked as its verdict says, and called the
store as its verdict says. -/
theorem Tried.frame {leg : Leg σ} (h : Tried g ask call leg) (working : leg.before.1.Working) :
    leg.after.1.Working ∧
      leg.after.1.dispatches = leg.before.1.dispatches ++ leg.verdict.dispatch?.toList ∧
      leg.after.1.storeCalls = leg.before.1.storeCalls ++ leg.verdict.methods := by
  cases h with
  | unroutable candidate fault x nowhere =>
    refine ⟨working, ?_, ?_⟩
    · exact (List.append_nil _).symm
    · exact (List.append_nil _).symm
  | denied candidate route secret d store s state reached denied =>
    refine ⟨working, ?_, rfl⟩
    exact (List.append_nil _).symm
  | failed w store s state turn state' e reached admitted turned replied =>
    exact ⟨working, rfl, rfl⟩
  | served w store s state turn state' response reached admitted turned replied =>
    have settles := working .reconcile
    simp only at settles
    refine ⟨?_, ?_, ?_⟩
    · intro m
      simpa [Session.emit, Session.record, Session.enter, Session.atTime, Session.dispatch,
        Session.asked, settles] using working m
    · simp [Session.emit, Session.record, Session.enter, Session.atTime, Session.dispatch,
        Session.asked, settles, Verdict.dispatch?]
    · simp [Session.emit, Session.record, Session.enter, Session.atTime, Session.dispatch,
        Session.asked, settles, Verdict.methods]

/-! ## One candidate after another -/

variable (g ask call)

/-- Candidates that were tried one after another, from a session to another. -/
inductive Trailed (start : Session × σ) : List (Leg σ) → Session × σ → Prop
  | nil : Trailed start [] start
  | snoc {legs : List (Leg σ)} {leg : Leg σ} (earlier : Trailed start legs leg.before)
    (tried : Tried g ask call leg) : Trailed start (legs ++ [leg]) leg.after

variable {g ask call}

theorem Trailed.tried {start x : Session × σ} {legs : List (Leg σ)}
    (h : Trailed g ask call start legs x) : ∀ leg ∈ legs, Tried g ask call leg := by
  induction h with
  | nil => simp
  | snoc earlier tried ih =>
    intro leg mem
    rcases List.mem_append.1 mem with mem | mem
    · exact ih leg mem
    · obtain rfl := List.mem_singleton.1 mem
      exact tried

/-- Providers are asked, and the store is called, as the verdicts say. -/
theorem Trailed.frame {start x : Session × σ} {legs : List (Leg σ)}
    (h : Trailed g ask call start legs x) (working : start.1.Working) :
    x.1.Working ∧
      x.1.dispatches = start.1.dispatches ++ legs.filterMap (·.verdict.dispatch?) ∧
      x.1.storeCalls = start.1.storeCalls ++ legs.flatMap (·.verdict.methods) := by
  induction h with
  | nil => exact ⟨working, by simp, by simp⟩
  | @snoc legs leg earlier tried ih =>
    obtain ⟨works, dispatches, storeCalls⟩ := ih
    obtain ⟨works', dispatches', storeCalls'⟩ := tried.frame works
    refine ⟨works', ?_, ?_⟩
    · rw [dispatches', dispatches, List.filterMap_append, List.append_assoc]
      congr 2
    · rw [storeCalls', storeCalls, List.flatMap_append, List.append_assoc, List.flatMap_singleton]

/-! ## What the caller is told -/

/-- Attempts that list candidates which were left for the next one, in order, each with its
reason. -/
def Records (attempts : List Attempt) (legs : List (Leg σ)) : Prop :=
  legs.map (fun leg => (leg.candidate, leg.verdict.failure?)) =
    attempts.map fun a => (a.candidate, some a.failure)

/-- The error of the last attempt that was denied or failed. -/
def lastError? (attempts : List Attempt) : Option GatewayError :=
  (attempts.filterMap fun a => Trail.errorOf a.failure).getLast?

variable (call)

/-- What the caller is told when a call ends. -/
inductive Ending : List (Leg σ) → Except GatewayError ChatResponse → Prop
  /-- The answer of the last candidate that was tried. -/
  | served (attempts : List Attempt) (earlier : List (Leg σ)) (leg : Leg σ) (d : Dispatch)
    (response : ChatResponse) (records : Records attempts earlier)
    (verdict : leg.verdict = .asked d (.ok response)) :
    Ending (earlier ++ [leg]) (.ok response)
  /-- The failure of the last candidate that was tried, and the attempts before. -/
  | aborted (attempts : List Attempt) (earlier : List (Leg σ)) (leg : Leg σ) (d : Dispatch)
    (e : ProviderError) (records : Records attempts earlier)
    (verdict : leg.verdict = .asked d (.error e)) (fatal : e.retryable = false) :
    Ending (earlier ++ [leg]) (.error (.aborted leg.candidate e attempts))
  /-- The attempts with all candidates, and the last error among them. -/
  | exhausted (attempts : List Attempt) (legs : List (Leg σ)) (records : Records attempts legs)
    (all : legs.map (·.candidate) = call.candidates) :
    Ending legs (.error (.exhausted attempts (lastError? attempts)))

variable (g ask)

/-- What became of a call that has come to its end. -/
structure Told (start : Session × σ) (legs : List (Leg σ))
    (result : Except GatewayError ChatResponse × Session × σ) : Prop where
  candidates : legs.map (·.candidate) <+: call.candidates
  trailed : Trailed g ask call start legs result.2
  ending : Ending call legs result.1

/-- What a call has behind it, and what is left of its candidates. -/
structure Passed (start : Session × σ) (trail : Trail) (legs : List (Leg σ)) (x : Session × σ)
    (rest : List String) : Prop where
  candidates : legs.map (·.candidate) ++ rest = call.candidates
  trailed : Trailed g ask call start legs x
  records : Records trail.attempts legs
  last : trail.last = lastError? trail.attempts

variable {g ask call} {start : Session × σ} {trail : Trail} {legs : List (Leg σ)}

theorem lastError?_push (attempts : List Attempt) (candidate : String) (failure : AttemptFailure) :
    lastError? (attempts ++ [⟨candidate, failure⟩]) =
      (Trail.errorOf failure <|> lastError? attempts) := by
  cases failure with
  | unroutable fault => simp [lastError?, Trail.errorOf]
  | denied d => simp [lastError?, Trail.errorOf]
  | provider e => simp [lastError?, Trail.errorOf]

/-- A candidate that is left for the next one is a further attempt. -/
theorem Passed.push {leg : Leg σ} {rest : List String} {failure : AttemptFailure}
    (h : Passed g ask call start trail legs leg.before (leg.candidate :: rest))
    (tried : Tried g ask call leg) (failed : leg.verdict.failure? = some failure) :
    Passed g ask call start (trail.push leg.candidate failure) (legs ++ [leg]) leg.after rest := by
  constructor
  · rw [← h.candidates, List.map_append, List.append_assoc]
    rfl
  · exact h.trailed.snoc tried
  · have records := h.records
    simp only [Records] at records
    simp only [Records, Trail.push, List.map_append, records, List.map_cons, List.map_nil, failed]
  · simp only [Trail.push]
    rw [lastError?_push, h.last]

/-- A candidate that ends a call is the last one. -/
theorem Passed.told {leg : Leg σ} {rest : List String}
    {outcome : Except GatewayError ChatResponse}
    (h : Passed g ask call start trail legs leg.before (leg.candidate :: rest))
    (tried : Tried g ask call leg) (ending : Ending call (legs ++ [leg]) outcome) :
    Told g ask call start (legs ++ [leg]) (outcome, leg.after) := by
  refine ⟨⟨rest, ?_⟩, h.trailed.snoc tried, ending⟩
  rw [← h.candidates, List.map_append, List.append_assoc]
  rfl

/-- However far a call has come, in the end it tells what became of its candidates. -/
theorem told_walk {s : Session} {state : σ} {rest : List String} (working : s.Working)
    (h : Passed g ask call start trail legs (s, state) rest) :
    ∃ legs', Told g ask call start legs'
      (g.converse ask (g.walk call trail s rest).1 (g.walk call trail s rest).2 state) := by
  induction rest generalizing trail s state legs with
  | nil =>
    rw [Gateway.walk_nil, g.converse_done, h.last]
    have all : legs.map (·.candidate) = call.candidates := by
      rw [← h.candidates, List.append_nil]
    exact ⟨legs, ⟨[], by rw [List.append_nil, all]⟩, h.trailed,
      .exhausted trail.attempts legs h.records all⟩
  | cons candidate rest ih =>
    cases reached : g.reach call.config candidate with
    | error fault =>
      rw [Gateway.walk_of_unroutable reached]
      have tried : Tried g ask call ⟨candidate, .unroutable fault, (s, state), (s, state)⟩ :=
        .unroutable candidate fault (s, state) reached
      exact ih working (h.push tried rfl)
    | ok target =>
      obtain ⟨route, secret⟩ := target
      rcases asked : g.askStore call route s.now s.store with ⟨answer, store⟩
      cases answer with
      | deny d =>
        rw [Gateway.walk_of_denied working reached asked]
        have tried : Tried g ask call ⟨candidate, .denied d, (s, state), (s.asked store, state)⟩ :=
          .denied candidate route secret d store s state reached asked
        exact ih (working.asked store) (h.push tried rfl)
      | allow r =>
        rw [Gateway.walk_of_admitted working reached asked]
        let w := g.waitingOn call trail candidate route secret r rest
        have reaches : g.Reaches call w := ⟨trail, secret, rest, reached, rfl⟩
        rcases turned : ask state s.now w.dispatch with ⟨turn, state'⟩
        have works : (((s.asked store).dispatch w.dispatch).atTime turn.now).Working := working
        change ∃ legs', Told g ask call start legs'
          (g.converse ask (.waiting w) ((s.asked store).dispatch w.dispatch) state)
        rw [g.converse_waiting (s := (s.asked store).dispatch w.dispatch) turned]
        cases replied : turn.reply with
        | ok response =>
          rw [Gateway.answer_of_ok works, g.converse_done]
          have tried :=
            Tried.served w store s state turn state' response reaches asked turned replied
          refine ⟨_, h.told tried ?_⟩
          exact .served trail.attempts legs _ w.dispatch response h.records rfl
        | error e =>
          have tried := Tried.failed w store s state turn state' e reaches asked turned replied
          cases passes : e.retryable with
          | true =>
            rw [Gateway.answer_of_retryable passes]
            exact ih works (h.push tried (by simp [Verdict.failure?, passes]))
          | false =>
            rw [Gateway.answer_of_fatal passes, g.converse_done]
            refine ⟨_, h.told tried ?_⟩
            exact .aborted trail.attempts legs _ w.dispatch e h.records rfl passes

/-- **The trail of a call.**  The candidates of a call begin with the model that its alias
stands for.  Some first of them are tried, in order, and what became of each is what the
rules say of it.  Providers are asked, and the store is called, for these and no others,
each once at most.  The caller is told the answer of the last one, or its failure and the
attempts before, or the attempts with all candidates and the last error among them. -/
theorem chat_trail (g : Gateway α) (ask : Providers σ) (s : Session) (state : σ) (config : Config)
    (key model : String) (messages : List Message) (temperature : Option Binary)
    (maxTokens : Option UInt32) (working : s.Working) (ready : s.phase = .ready config)
    (unrevoked : s.revocations.get? key = none) :
    let call : Call := ⟨key, model, resolveAlias config.modelAliases model, config,
      ⟨"", messages, temperature, maxTokens⟩⟩
    let begun := g.chat s key model messages temperature maxTokens
    let result := g.converse ask begun.1 begun.2 state
    call.candidates.head? = some (resolveAlias config.modelAliases model) ∧
      ∃ legs : List (Leg σ), Told g ask call (s, state) legs result ∧
        (∀ leg ∈ legs, leg.Decided g ask call) ∧
        result.2.1.dispatches = s.dispatches ++ legs.filterMap (·.verdict.dispatch?) ∧
        result.2.1.storeCalls = s.storeCalls ++ legs.flatMap (·.verdict.methods) := by
  intro call begun result
  have opened : s.open? key model messages temperature maxTokens = .ok call := by
    simp only [Session.open?, Session.config, ready, unrevoked]
    rfl
  have begun_eq : begun = g.walk call {} s call.candidates := by
    have := g.chat_eq s key model messages temperature maxTokens
    rwa [opened] at this
  have fresh : Passed g ask call (s, state) {} [] (s, state) call.candidates :=
    ⟨rfl, .nil, rfl, rfl⟩
  obtain ⟨legs, told⟩ := told_walk working fresh
  rw [← begun_eq] at told
  obtain ⟨-, dispatches, storeCalls⟩ := told.trailed.frame working
  have decided : ∀ leg ∈ legs, leg.Decided g ask call :=
    fun leg mem => (told.trailed.tried leg mem).decided
  exact ⟨head?_selectCandidates _ _, legs, told, decided, dispatches, storeCalls⟩

end Legs

/-- A gateway whose one provider serves two of three candidates, a request a minute. -/
def narrowGateway : Gateway Unit where
  config := {
    apiKeys := .ofList [("p", "secret")]
    routingRules := [⟨"three", 0, ["ghost", "p/a", "p/b"]⟩]
    quotas := .ofList [("k", { requestsPerMinute := some 1 })]
    modelAliases := .ofList [("any", "ghost")] }
  registry := ⟨[⟨"p", fun _ => false, ()⟩]⟩

/-- A session of it that is ready. -/
def narrowSession : Session := { phase := .ready narrowGateway.config }

/-- Providers that are always busy, and count how often they are asked. -/
def busyProviders : Providers Nat :=
  fun asked now d =>
    (⟨.error { provider := d.provider, retryable := true, message := "busy" }, 5, now⟩, asked + 1)

/-- A call of it, to its end. -/
def narrowResult : Except GatewayError ChatResponse × Session × Nat :=
  let begun := narrowGateway.chat narrowSession "k" "any" [] none none
  narrowGateway.converse busyProviders begun.1 begun.2 0

theorem chat_trail_narrow :
    narrowSession.Working ∧ narrowSession.phase = .ready narrowGateway.config ∧
      narrowSession.revocations.get? "k" = none ∧
      (∃ legs : List (Leg Nat), Told narrowGateway busyProviders
        ⟨"k", "any", "ghost", narrowGateway.config, ⟨"", [], none, none⟩⟩ (narrowSession, 0) legs
        narrowResult) ∧
      narrowResult.2.2 = 1 ∧
      (match narrowResult.1 with
        | .error e => some e.message
        | .ok _ => none) = some ("All candidates exhausted: "
          ++ "ghost -> unroutable: no provider registered for 'ghost'; "
          ++ "p/a -> retryable error from 'p': busy; "
          ++ "p/b -> quota denied for key 'k' on max_requests_per_minute "
          ++ "(1 used + 1 requested > 1)") := by
  have working : narrowSession.Working := fun _ => rfl
  obtain ⟨-, legs, told, -⟩ := chat_trail narrowGateway busyProviders narrowSession 0
    narrowGateway.config "k" "any" [] none none working rfl rfl
  have resolved : resolveAlias narrowGateway.config.modelAliases "any" = "ghost" := by
    decide +kernel
  rw [resolved] at told
  exact ⟨working, rfl, rfl, ⟨legs, told⟩, by decide +kernel, by decide +kernel⟩

end ChatGateway

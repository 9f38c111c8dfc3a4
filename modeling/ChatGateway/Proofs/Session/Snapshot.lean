import ChatGateway.Proofs.Session.Fallback
import ChatGateway.Proofs.Session.Performance

/-!
# Calls under way keep their snapshot

A call takes its configuration along when it begins, and after that asks the session for the
store, the clock and the events only.  So two sessions that agree on these are all the same to
it, and what administration does in between makes no difference to the calls that wait already:
not to the candidates they still try, the secrets they use or the limits they are admitted
under, nor to what they are told, charged and billed.

## Main definitions

* `Session.Alike` — sessions between which no call under way can tell the difference.
* `LineTraffic`, `LineStep`, `Gateway.carry` — traffic, with the line over which providers reply.
* `Spliced` — steps with administration put in between.
* `calls_keep_snapshot` — two runs, with administration and without.
-/

namespace ChatGateway

/-! ## Sessions alike -/

/-- Two sessions agree on all but what administration decides: the phase with its
configuration, what is under way, and the revocations. -/
structure Session.Alike (s s' : Session) : Prop where
  store_eq : s'.store = s.store
  faults_eq : s'.faults = s.faults
  now_eq : s'.now = s.now
  events_eq : s'.events = s.events
  dispatches_eq : s'.dispatches = s.dispatches
  writes_eq : s'.writes = s.writes

/-- The session with another store. -/
def Session.putStore (s : Session) (store : QuotaStore) : Session :=
  { s with store := store }

theorem Session.reserve_eq (s : Session) (config : Config) (key : String) (tokens cost : UInt64) :
    s.reserve config key tokens cost =
      match s.faults .reserve with
      | some e => (.error e, s.enter .reserve)
      | none =>
        let (answer, store) :=
          s.store.reserve key (config.quotaFor key) (windowOf s.now) tokens cost
        (.ok answer, (s.enter .reserve).putStore store) :=
  rfl

theorem Session.record_eq (s : Session) (r : Reservation) (tokens cost : UInt64) :
    s.record r tokens cost =
      match s.faults .reconcile with
      | some _ => s.enter .reconcile
      | none =>
        (s.enter .reconcile).putStore (s.store.reconcile r (windowOf s.now) tokens cost) :=
  rfl

namespace Session.Alike

variable {s s' s'' : Session}

theorem refl (s : Session) : s.Alike s := by
  constructor <;> rfl

theorem symm (h : s.Alike s') : s'.Alike s :=
  ⟨h.store_eq.symm, h.faults_eq.symm, h.now_eq.symm, h.events_eq.symm, h.dispatches_eq.symm,
    h.writes_eq.symm⟩

theorem trans (h : s.Alike s') (h' : s'.Alike s'') : s.Alike s'' :=
  ⟨h'.store_eq.trans h.store_eq, h'.faults_eq.trans h.faults_eq, h'.now_eq.trans h.now_eq,
    h'.events_eq.trans h.events_eq, h'.dispatches_eq.trans h.dispatches_eq,
    h'.writes_eq.trans h.writes_eq⟩

theorem enter (h : s.Alike s') (m : StoreMethod) : (s.enter m).Alike (s'.enter m) := by
  obtain ⟨store, faults, now, events, dispatches, writes⟩ := h
  refine ⟨store, faults, now, events, dispatches, ?_⟩
  simpa [Session.writes, Session.enter] using writes

theorem putStore (h : s.Alike s') (store : QuotaStore) :
    (s.putStore store).Alike (s'.putStore store) :=
  ⟨rfl, h.faults_eq, h.now_eq, h.events_eq, h.dispatches_eq, h.writes_eq⟩

theorem dispatch (h : s.Alike s') (d : Dispatch) : (s.dispatch d).Alike (s'.dispatch d) :=
  ⟨h.store_eq, h.faults_eq, h.now_eq, h.events_eq, congrArg (· ++ [d]) h.dispatches_eq,
    h.writes_eq⟩

theorem emit (h : s.Alike s') (e : UsageEvent) : (s.emit e).Alike (s'.emit e) :=
  ⟨h.store_eq, h.faults_eq, h.now_eq, congrArg (·.record e) h.events_eq, h.dispatches_eq,
    h.writes_eq⟩

theorem atTime (h : s.Alike s') (now : Instant) : (s.atTime now).Alike (s'.atTime now) :=
  ⟨h.store_eq, h.faults_eq, rfl, h.events_eq, h.dispatches_eq, h.writes_eq⟩

theorem record (h : s.Alike s') (r : Reservation) (tokens cost : UInt64) :
    (s.record r tokens cost).Alike (s'.record r tokens cost) := by
  rw [s.record_eq, s'.record_eq, h.faults_eq, h.store_eq, h.now_eq]
  split
  · exact h.enter _
  · exact (h.enter _).putStore _

/-- The store gives the same answer to both. -/
theorem reserve (h : s.Alike s') (config : Config) (key : String) (tokens cost : UInt64) :
    (s'.reserve config key tokens cost).1 = (s.reserve config key tokens cost).1 ∧
      (s.reserve config key tokens cost).2.Alike (s'.reserve config key tokens cost).2 := by
  rw [s.reserve_eq, s'.reserve_eq, h.faults_eq, h.store_eq, h.now_eq]
  split
  · exact ⟨rfl, h.enter _⟩
  · exact ⟨rfl, (h.enter _).putStore _⟩

end Session.Alike

/-! ## Calls on sessions alike -/

section Calls

variable {α : Type} (g : Gateway α) {s s' : Session}

/-- A walk comes as far on both. -/
theorem alike_walk (call : Call) (trail : Trail) (h : s.Alike s') (candidates : List String) :
    (g.walk call trail s' candidates).1 = (g.walk call trail s candidates).1 ∧
      (g.walk call trail s candidates).2.Alike (g.walk call trail s' candidates).2 := by
  induction candidates generalizing trail s s' with
  | nil => exact ⟨rfl, h⟩
  | cons candidate rest ih =>
    simp only [Gateway.walk]
    cases g.reach call.config candidate with
    | error fault => exact ih _ h
    | ok target =>
      obtain ⟨route, secret⟩ := target
      dsimp only
      obtain ⟨told, after⟩ := h.reserve call.config call.key
        (ChatRequest.estimatedTokens { call.request with model := route.model })
        (g.pricing.estimate route.model
          (ChatRequest.estimatedTokens { call.request with model := route.model }))
      -- from here on, the sessions matter only through the store's answer and what follows it
      generalize s.reserve call.config call.key _ _ = x at told after ⊢
      generalize s'.reserve call.config call.key _ _ = x' at told after ⊢
      obtain ⟨answer, s₁⟩ := x
      obtain ⟨answer', s₁'⟩ := x'
      obtain rfl : answer' = answer := told
      cases answer' with
      | error e => exact ⟨rfl, after⟩
      | ok admission =>
        cases admission with
        | deny d => exact ih _ after
        | allow r => exact ⟨rfl, after.dispatch _⟩

theorem answer_ok (w : Waiting) (response : ChatResponse) (latencyMs : UInt64) (s : Session) :
    g.answer w (.ok response) latencyMs s =
      (.done (.ok response),
        (s.record w.reservation (g.bill w response).1 (g.bill w response).2).emit
          (g.event w response latencyMs
            (s.record w.reservation (g.bill w response).1 (g.bill w response).2).now)) :=
  rfl

/-- A reply makes the same of both. -/
theorem alike_answer (w : Waiting) (reply : Except ProviderError ChatResponse)
    (latencyMs : UInt64) (h : s.Alike s') :
    (g.answer w reply latencyMs s').1 = (g.answer w reply latencyMs s).1 ∧
      (g.answer w reply latencyMs s).2.Alike (g.answer w reply latencyMs s').2 := by
  cases reply with
  | ok response =>
    have recorded := h.record w.reservation (g.bill w response).1 (g.bill w response).2
    rw [answer_ok, answer_ok, recorded.now_eq]
    exact ⟨rfl, recorded.emit _⟩
  | error e =>
    cases passes : e.retryable with
    | true =>
      rw [Gateway.answer_of_retryable passes, Gateway.answer_of_retryable passes]
      exact alike_walk g _ _ h _
    | false =>
      rw [Gateway.answer_of_fatal passes, Gateway.answer_of_fatal passes]
      exact ⟨rfl, h⟩

/-- The acts and the fate that a reply makes of a request are the same on both. -/
theorem alike_reply (n : Nat) (w : Waiting) (reply : Except ProviderError ChatResponse)
    (latencyMs : UInt64) (h : s.Alike s') :
    g.replyActs n w reply latencyMs s' = g.replyActs n w reply latencyMs s ∧
      g.fate w reply latencyMs s' = g.fate w reply latencyMs s := by
  cases reply with
  | ok response => simp only [Gateway.replyActs, Gateway.fate, h.now_eq, and_self]
  | error e =>
    simp only [Gateway.replyActs, Gateway.fate, h.now_eq, h.store_eq,
      (alike_answer g w (.error e) latencyMs h).1, and_self]

end Calls

/-! ## Administration -/

section Administration

variable {α : Type} (g : Gateway α)

theorem now_init (s : Session) : (g.init s).2.now = s.now := by
  simp only [Gateway.init, Session.beginInit, Gateway.finishInit]
  by_cases busy : s.underway.isSome
  · simp only [if_pos busy]
  · rw [if_neg busy]
    cases s.phase with
    | uninitialized => simp only; split <;> rfl
    | _ => rfl

theorem now_close (s : Session) : s.close.2.now = s.now := by
  simp only [Session.close, Session.beginClose, Session.finishClose]
  by_cases busy : s.underway.isSome
  · simp only [if_pos busy]
  · rw [if_neg busy]
    cases s.phase with
    | ready config => simp only; split <;> rfl
    | _ => rfl

/-- Administration does not move the clock. -/
theorem now_administer (s : Session) (step : AdminStep) : (g.administer s step).now = s.now := by
  cases step with
  | init => exact now_init g s
  | close => exact now_close s
  | reload config =>
    simp only [Gateway.administer, Session.reload]
    cases s.config <;> rfl
  | applyPolicy u =>
    simp only [Gateway.administer, Session.applyPolicy]
    split <;> rfl
  | usage key =>
    simp only [Gateway.administer, Session.usage]
    cases s.config with
    | error e => rfl
    | ok config => simp only; split <;> rfl

/-- To a call under way, administration makes no difference. -/
theorem alike_administer (s : Session) (step : AdminStep) : s.Alike (g.administer s step) := by
  have performed := performs_administer g s step
  constructor
  case store_eq => exact (Option.some.inj performed.replay_eq).symm
  case faults_eq => exact performed.faults_eq
  case now_eq => exact now_administer g s step
  case events_eq =>
    have events : (g.administer s step).events.events = s.events.events := by
      simpa using performed.events_eq
    exact congrArg EventLog.mk events
  case dispatches_eq => simpa using performed.dispatches_eq
  case writes_eq => simpa using performed.writes_eq

end Administration

/-! ## Traffic over a line -/

/-- Traffic, and the line over which providers reply. -/
structure LineTraffic where
  traffic : Traffic
  line : Line := {}

/-- A step of it. -/
inductive LineStep where
  /-- The provider of a request replies to it, as the line and the clock let it. -/
  | reply (n : Nat) (ask : Providers Line)
  /-- Anything else. -/
  | step (step : TrafficStep)

/-- Whether a step begins a call. -/
def LineStep.begins : LineStep → Bool
  | step (.chat ..) => true
  | _ => false

namespace Gateway

variable {α : Type} (g : Gateway α)

/-- Carry out a step.  A reply to a request that does not wait goes nowhere. -/
def carry (x : LineTraffic) : LineStep → LineTraffic
  | .reply n ask =>
    match x.traffic.requests[n]? with
    | some ⟨w, _, .waiting⟩ =>
      let (turn, line) := ask x.line x.traffic.session.now w.dispatch
      ⟨g.advance (g.advance x.traffic (.clock turn.now)) (.answer n turn.reply turn.latencyMs),
        line⟩
    | _ => x
  | .step step => { x with traffic := g.advance x.traffic step }

/-- What a row of steps leads to. -/
def lineTraffic (x : LineTraffic) (steps : List LineStep) : LineTraffic :=
  steps.foldl g.carry x

theorem lineTraffic_cons (x : LineTraffic) (step : LineStep) (steps : List LineStep) :
    g.lineTraffic x (step :: steps) = g.lineTraffic (g.carry x step) steps := rfl

end Gateway

/-! ## Two runs -/

/-- Traffic in which the same calls have done the same, on sessions alike. -/
structure Traffic.Alike (t t' : Traffic) : Prop where
  requests_eq : t'.requests = t.requests
  trace_eq : t'.trace = t.trace
  session : t.session.Alike t'.session

/-- The same, with the line in the same state. -/
structure LineTraffic.Alike (x x' : LineTraffic) : Prop where
  traffic : x.traffic.Alike x'.traffic
  line_eq : x'.line = x.line

theorem LineTraffic.Alike.refl (x : LineTraffic) : x.Alike x :=
  ⟨⟨rfl, rfl, .refl x.traffic.session⟩, rfl⟩

theorem LineTraffic.Alike.trans {x x' x'' : LineTraffic} (h : x.Alike x') (h' : x'.Alike x'') :
    x.Alike x'' where
  traffic :=
    ⟨h'.traffic.requests_eq.trans h.traffic.requests_eq,
      h'.traffic.trace_eq.trans h.traffic.trace_eq, h.traffic.session.trans h'.traffic.session⟩
  line_eq := h'.line_eq.trans h.line_eq

/-- Steps with administration put in between, while no call begins. -/
inductive Spliced : List LineStep → List LineStep → Prop
  | nil : Spliced [] []
  | keep {short long : List LineStep} (step : LineStep) (under_way : step.begins = false)
    (rest : Spliced short long) : Spliced (step :: short) (step :: long)
  | insert {short long : List LineStep} (step : AdminStep) (rest : Spliced short long) :
    Spliced short (.step (.admin step) :: long)

section Runs

variable {α : Type} (g : Gateway α)

/-- Calls that go on from sessions alike do the same. -/
theorem alike_follow {t t' : Traffic} (h : t.Alike t') (acts : List Act)
    (ended : Except GatewayError ChatResponse → Act) {next next' : Progress × Session}
    (told : next'.1 = next.1) (after : next.2.Alike next'.2) :
    (t.follow acts ended next).Alike (t'.follow acts ended next') := by
  constructor
  · simp only [Traffic.follow, told, h.requests_eq, h.session.now_eq]
  · simp only [Traffic.follow, told, h.requests_eq, h.trace_eq, h.session.now_eq]
  · exact after

theorem alike_advance_answer {t t' : Traffic} (h : t.Alike t') (n : Nat)
    (reply : Except ProviderError ChatResponse) (latencyMs : UInt64) :
    (g.advance t (.answer n reply latencyMs)).Alike (g.advance t' (.answer n reply latencyMs)) := by
  by_cases waits : ∃ w since, t.requests[n]? = some ⟨w, since, .waiting⟩
  · obtain ⟨w, since, here⟩ := waits
    have here' : t'.requests[n]? = some ⟨w, since, .waiting⟩ := by rw [h.requests_eq, here]
    obtain ⟨acts, fate⟩ := alike_reply g n w reply latencyMs h.session
    obtain ⟨told, after⟩ := alike_answer g w reply latencyMs h.session
    rw [Gateway.advance_answer_of_waiting here, Gateway.advance_answer_of_waiting here', acts, fate]
    have set : Traffic.Alike
        { t with requests := t.requests.set n ⟨w, since, g.fate w reply latencyMs t.session⟩ }
        { t' with requests := t'.requests.set n ⟨w, since, g.fate w reply latencyMs t.session⟩ } :=
      ⟨by simp only [h.requests_eq], h.trace_eq, h.session⟩
    exact alike_follow set _ _ told after
  · have idle' : ¬ ∃ w since, t'.requests[n]? = some ⟨w, since, .waiting⟩ := by
      rwa [h.requests_eq]
    rw [Gateway.advance_answer_of_idle waits, Gateway.advance_answer_of_idle idle']
    exact h

/-- A step that begins no call keeps traffic alike. -/
theorem alike_advance {t t' : Traffic} (h : t.Alike t') (step : TrafficStep)
    (under_way : (LineStep.step step).begins = false) :
    (g.advance t step).Alike (g.advance t' step) := by
  cases step with
  | chat => cases under_way
  | answer n reply latencyMs => exact alike_advance_answer g h n reply latencyMs
  | clock now => exact ⟨h.requests_eq, h.trace_eq, h.session.atTime now⟩
  | admin step =>
    have before := (alike_administer g t.session step).symm
    have after := alike_administer g t'.session step
    exact ⟨h.requests_eq, h.trace_eq, (before.trans h.session).trans after⟩
  | drop n =>
    simp only [Gateway.advance, h.requests_eq]
    split
    · exact ⟨rfl, congrArg (· ++ _) h.trace_eq, h.session⟩
    · exact h

/-- So does a reply: the provider sees the same request, at the same time, over the same line. -/
theorem alike_carry {x x' : LineTraffic} (h : x.Alike x') (step : LineStep)
    (under_way : step.begins = false) : (g.carry x step).Alike (g.carry x' step) := by
  obtain ⟨traffic, line⟩ := h
  cases step with
  | step step => exact ⟨alike_advance g traffic step under_way, line⟩
  | reply n ask =>
    simp only [Gateway.carry, traffic.requests_eq, traffic.session.now_eq, line]
    split
    · refine ⟨alike_advance_answer g ?_ n _ _, rfl⟩
      exact alike_advance g traffic (.clock _) rfl
    · exact ⟨traffic, line⟩

/-- A step of administration makes no difference to the calls under way. -/
theorem alike_carry_admin (x : LineTraffic) (step : AdminStep) :
    x.Alike (g.carry x (.step (.admin step))) :=
  ⟨⟨rfl, rfl, alike_administer g x.traffic.session step⟩, rfl⟩

/-- Two runs stay alike if they differ in administration only. -/
theorem alike_lineTraffic {x x' : LineTraffic} (h : x.Alike x') {short long : List LineStep}
    (spliced : Spliced short long) : (g.lineTraffic x short).Alike (g.lineTraffic x' long) := by
  induction spliced generalizing x x' with
  | nil => exact h
  | keep step under_way rest ih =>
    rw [Gateway.lineTraffic_cons, Gateway.lineTraffic_cons]
    exact ih (alike_carry g h step under_way)
  | insert step rest ih =>
    rw [Gateway.lineTraffic_cons]
    exact ih (h.trans (alike_carry_admin g x' step))

/-- **The snapshot of a call.**  Take the traffic of a session at any time, with any calls
waiting, and let them go on, with administration put in between or without.  Then all calls
do the same in both runs, request by request and act by act: they reach the same routes with
the same secrets, are admitted and denied under the same limits, charge and bill the same and
are told the same; and the counters, the events and the cooldowns end up the same.  What is put
in between changes none of these itself. -/
theorem calls_keep_snapshot (x : LineTraffic) {short long : List LineStep}
    (spliced : Spliced short long) :
    (g.lineTraffic x short).Alike (g.lineTraffic x long) ∧
      ∀ (past : List LineStep) (step : AdminStep),
        (g.lineTraffic x past).Alike (g.carry (g.lineTraffic x past) (.step (.admin step))) :=
  ⟨alike_lineTraffic g (.refl x) spliced,
    fun past step => alike_carry_admin g (g.lineTraffic x past) step⟩

end Runs

/-- Providers that are always busy, over a line that counts how often they are asked. -/
def busyLine : Providers Line :=
  fun line now d =>
    (⟨.error { provider := d.provider, retryable := true, message := "busy" }, 5, now⟩,
      { line with sendings := line.sendings + 1 })

/-- A call waits for the second of its candidates; its key has one request a minute. -/
def heldTraffic : LineTraffic where
  traffic := narrowGateway.advance ⟨narrowSession, [], []⟩ (.chat "k" "any" [] none none)

/-- While it waits, all limits are lifted, its key is revoked and the gateway is closed. -/
def heldSteps : List LineStep :=
  [.step (.admin (.reload { narrowGateway.config with quotas := .empty })),
    .step (.admin (.applyPolicy ⟨"k", .revoke, none⟩)), .step (.admin .close),
    .reply 0 busyLine]

/-- The error with which the call of a request has ended. -/
def LineTraffic.failure? (x : LineTraffic) (n : Nat) : Option String :=
  match x.traffic.requests[n]? with
  | some ⟨_, _, .failed _ (some e)⟩ => some e.message
  | _ => none

theorem calls_keep_snapshot_held :
    Spliced [.reply 0 busyLine] heldSteps ∧
      (narrowGateway.lineTraffic heldTraffic [.reply 0 busyLine]).Alike
        (narrowGateway.lineTraffic heldTraffic heldSteps) ∧
      (narrowGateway.lineTraffic heldTraffic heldSteps).traffic.session.phase = .closed ∧
      (narrowGateway.lineTraffic heldTraffic heldSteps).line.sendings = 1 ∧
      (narrowGateway.lineTraffic heldTraffic heldSteps).failure? 0 =
        some ("All candidates exhausted: "
          ++ "ghost -> unroutable: no provider registered for 'ghost'; "
          ++ "p/a -> retryable error from 'p': busy; "
          ++ "p/b -> quota denied for key 'k' on max_requests_per_minute "
          ++ "(1 used + 1 requested > 1)") := by
  have spliced : Spliced [.reply 0 busyLine] heldSteps :=
    .insert _ (.insert _ (.insert _ (.keep _ rfl .nil)))
  obtain ⟨alike, -⟩ := calls_keep_snapshot narrowGateway heldTraffic spliced
  exact ⟨spliced, alike, by decide +kernel, by decide +kernel, by decide +kernel⟩

end ChatGateway

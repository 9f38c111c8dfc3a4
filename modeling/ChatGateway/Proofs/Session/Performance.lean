import ChatGateway.Proofs.Session.Traffic

/-!
# Sessions that perform a trace

What a step of traffic does to the store, to the providers and to the events of a
session is what its acts say, and nothing else.  This is a relation between two
sessions and the acts between them; it composes, so each operation is shown to keep
to its acts once, and a whole run keeps to its trace.

## Main definitions

* `Session.Performs` — from one session to another, these acts were done.
* `performs_walk`, `performs_answer` — the two ways in which a call goes on.
* `performs_traffic` — whole runs.
-/

namespace ChatGateway

/-- Whether an operation of a store may change its counters. -/
def StoreMethod.writes : StoreMethod → Bool
  | reserve | reconcile => true
  | connect | usage | close => false

/-- The operations that may have changed the counters, in order. -/
def Session.writes (s : Session) : List StoreMethod :=
  s.storeCalls.filter StoreMethod.writes

/-- Whether an act leaves the store, the providers and the events alone. -/
def Act.isSilent : Act → Bool
  | .denied .. => false
  | .request _ (.admitted ..) | .request _ (.dispatched _) => false
  | .request _ (.recorded ..) | .request _ (.emitted _) => false
  | _ => true

theorem Act.of_isSilent {act : Act} (h : act.isSilent) :
    (∀ store : QuotaStore, store.perform act = some store) ∧
      act.method? = none ∧ act.emitted? = none ∧ act.dispatched? = none := by
  cases act with
  | denied => cases h
  | ended outcome => exact ⟨fun _ => rfl, rfl, rfl, rfl⟩
  | request n a =>
    cases a with
    | admitted => cases h
    | dispatched => cases h
    | recorded => cases h
    | emitted => cases h
    | dropped => exact ⟨fun _ => rfl, rfl, rfl, rfl⟩
    | failed => exact ⟨fun _ => rfl, rfl, rfl, rfl⟩
    | answered => exact ⟨fun _ => rfl, rfl, rfl, rfl⟩
    | ended => exact ⟨fun _ => rfl, rfl, rfl, rfl⟩

namespace QuotaStore

@[simp] theorem replay_nil (store : QuotaStore) : store.replay [] = some store := rfl

theorem replay_append (store : QuotaStore) (trace later : List Act) :
    store.replay (trace ++ later) = (store.replay trace).bind fun store => store.replay later := by
  simp only [replay, List.foldlM_append]
  rfl

@[simp] theorem replay_singleton (store : QuotaStore) (act : Act) :
    store.replay [act] = store.perform act := by
  simp [replay]

end QuotaStore

/-- From one session to another these acts were done: the store gave these answers,
and there were no further writes, events or requests. -/
structure Session.Performs (s : Session) (acts : List Act) (s' : Session) : Prop where
  faults_eq : s'.faults = s.faults
  replay_eq : s.store.replay acts = some s'.store
  writes_eq : s'.writes = s.writes ++ acts.filterMap Act.method?
  events_eq : s'.events.events = s.events.events ++ acts.filterMap Act.emitted?
  dispatches_eq : s'.dispatches = s.dispatches ++ acts.filterMap Act.dispatched?

namespace Session.Performs

variable {s s' s'' : Session} {acts later : List Act}

theorem refl (s : Session) : s.Performs [] s := by
  constructor <;> simp

theorem trans (h : s.Performs acts s') (h' : s'.Performs later s'') :
    s.Performs (acts ++ later) s'' := by
  constructor
  · rw [h'.faults_eq, h.faults_eq]
  · rw [QuotaStore.replay_append, h.replay_eq]
    exact h'.replay_eq
  · rw [h'.writes_eq, h.writes_eq, List.filterMap_append, List.append_assoc]
  · rw [h'.events_eq, h.events_eq, List.filterMap_append, List.append_assoc]
  · rw [h'.dispatches_eq, h.dispatches_eq, List.filterMap_append, List.append_assoc]

/-- A silent act is done by doing nothing. -/
theorem silent {act : Act} (h : act.isSilent) (s : Session) : s.Performs [act] s := by
  obtain ⟨store, method, event, dispatch⟩ := Act.of_isSilent h
  constructor <;> simp [store, method, event, dispatch]

theorem working (h : s.Performs acts s') (working : s.Working) : s'.Working := by
  intro m
  rw [h.faults_eq]
  exact working m

end Session.Performs

/-! ## The operations of a call -/

section Operations

variable {α : Type} {g : Gateway α} {s : Session}

theorem performs_denied {call : Call} {route : Route} {d : Denial} {store : QuotaStore}
    (asked : g.askStore call route s.now s.store = (.deny d, store)) :
    s.Performs [.denied (call.config.quotaFor call.key) (windowOf s.now) (call.tokensFor route)
      (g.centsFor call route) d] (s.asked store) := by
  have own : d.key = call.key := QuotaStore.of_reserve_deny asked
  have answer : s.store.reserve d.key (call.config.quotaFor call.key) (windowOf s.now)
      (call.tokensFor route) (g.centsFor call route) = (.deny d, store) := by
    rw [own]
    exact asked
  constructor
  · rfl
  · simp [QuotaStore.perform, answer]
  · exact List.filter_append s.storeCalls [.reserve]
  · exact (List.append_nil _).symm
  · exact (List.append_nil _).symm

theorem performs_admitted {call : Call} {route : Route} {r : Reservation} {store : QuotaStore}
    (asked : g.askStore call route s.now s.store = (.allow r, store)) (n : Nat) (trail : Trail)
    (candidate secret : String) (rest : List String) :
    s.Performs
      ((Request.opening ⟨g.waitingOn call trail candidate route secret r rest, s.now,
        .waiting⟩).map (.request n))
      ((s.asked store).dispatch ⟨route.provider, secret, call.requestTo route⟩) := by
  obtain ⟨key, tokens, cost⟩ := QuotaStore.of_reserve_allow asked
  have answer : s.store.reserve r.key (call.config.quotaFor call.key) (windowOf s.now) r.tokens
      r.costCents = (.allow r, store) := by
    rw [key, tokens, cost]
    exact asked
  constructor
  · rfl
  · simp [Request.opening, QuotaStore.replay, QuotaStore.perform, Gateway.waitingOn, Request.key,
      answer]
  · exact List.filter_append s.storeCalls [.reserve]
  · exact (List.append_nil _).symm
  · rfl

theorem performs_record (working : s.Working) (n : Nat) (r : Reservation) (tokens cost : UInt64) :
    s.Performs [.request n (.recorded (windowOf s.now) r tokens cost)]
      (s.record r tokens cost) := by
  constructor <;>
    simp [Session.record, Session.enter, Session.writes, working .reconcile, StoreMethod.writes,
      QuotaStore.perform, Act.method?, Act.emitted?, Act.dispatched?]

theorem performs_emit (n : Nat) (e : UsageEvent) :
    s.Performs [.request n (.emitted e)] (s.emit e) := by
  constructor <;>
    simp [Session.writes, Session.emit, EventLog.record, QuotaStore.perform, Act.method?,
      Act.emitted?, Act.dispatched?]

/-- A walk is denied what its denials say, and ends or comes to wait. -/
theorem performs_walk (call : Call) (n : Nat) {ended : Except GatewayError ChatResponse → Act}
    (quiet : ∀ outcome, (ended outcome).isSilent) (working : s.Working) (trail : Trail)
    (candidates : List String) :
    s.Performs
      (g.denials call s.now s.store candidates
        ++ (g.walk call trail s candidates).1.acts n s.now ended)
      (g.walk call trail s candidates).2 := by
  induction trail, s, candidates using Gateway.walk_induction g call with
  | exhausted trail s => exact .silent (quiet _) s
  | unroutable trail s candidate rest fault reached ih =>
    rw [Gateway.walk_of_unroutable reached, Gateway.denials, reached]
    exact ih working
  | denied trail s candidate rest route secret d store reached asked ih =>
    rw [Gateway.walk_of_denied working reached asked, Gateway.denials, reached]
    simp only [asked, List.cons_append]
    exact (performs_denied asked).trans (ih (working.asked store))
  | admitted trail s candidate rest route secret r store reached asked =>
    rw [Gateway.walk_of_admitted working reached asked, Gateway.denials, reached]
    simp only [asked, List.nil_append]
    exact performs_admitted asked n trail candidate secret rest

theorem performs_chat (n : Nat) (working : s.Working) (key model : String)
    (messages : List Message) (temperature : Option Binary) (maxTokens : Option UInt32) :
    s.Performs
      ((match s.open? key model messages temperature maxTokens with
          | .error _ => []
          | .ok call => g.denials call s.now s.store call.candidates)
        ++ (g.chat s key model messages temperature maxTokens).1.acts n s.now .ended)
      (g.chat s key model messages temperature maxTokens).2 := by
  rw [Gateway.chat_eq]
  cases s.open? key model messages temperature maxTokens with
  | error e => exact .silent rfl s
  | ok call => exact performs_walk call n (fun _ => rfl) working {} call.candidates

/-- What a reply makes of a request, and of the call that waits for it. -/
theorem performs_answer (working : s.Working) (n m : Nat) (w : Waiting)
    (reply : Except ProviderError ChatResponse) (latencyMs : UInt64) :
    s.Performs
      (g.replyActs n w reply latencyMs s
        ++ (g.answer w reply latencyMs s).1.acts m s.now fun outcome =>
          .request n (.ended outcome))
      (g.answer w reply latencyMs s).2 := by
  cases reply with
  | ok response =>
    rw [Gateway.answer_of_ok working]
    have answered : s.Performs [.request n (.answered response)] s := .silent rfl s
    have recorded := performs_record working n w.reservation (g.bill w response).1
      (g.bill w response).2
    have emitted := performs_emit (s := s.record w.reservation (g.bill w response).1
      (g.bill w response).2) n (g.event w response latencyMs s.now)
    exact ((answered.trans recorded).trans emitted).trans (.silent rfl _)
  | error e =>
    have failed : s.Performs [.request n (.failed e)] s := .silent rfl s
    simp only [Gateway.replyActs, List.cons_append]
    refine failed.trans ?_
    cases passes : e.retryable with
    | true =>
      rw [Gateway.answer_of_retryable passes]
      exact performs_walk w.call m (fun _ => rfl) working _ w.rest
    | false =>
      rw [Gateway.answer_of_fatal passes]
      exact .silent rfl s

/-- Calling the store without writing leaves its counters alone. -/
theorem performs_enter {m : StoreMethod} (reads : m.writes = false) :
    s.Performs [] (s.enter m) := by
  constructor
  · rfl
  · rfl
  · simp [Session.writes, Session.enter, reads]
  · exact (List.append_nil _).symm
  · exact (List.append_nil _).symm

/-- So does all that changes only the phase, the clock, the revocations and what is
under way. -/
theorem performs_unseen (s : Session) (phase : Phase) (underway : Option StoreMethod)
    (revocations : Revocations) (now : Instant) :
    s.Performs [] { s with
      phase := phase, underway := underway, revocations := revocations, now := now } := by
  constructor
  · rfl
  · rfl
  all_goals exact (List.append_nil _).symm

theorem performs_init (g : Gateway α) (s : Session) : s.Performs [] (g.init s).2 := by
  simp only [Gateway.init, Session.beginInit]
  by_cases busy : s.underway.isSome
  · rw [if_pos busy]
    exact .refl s
  · rw [if_neg busy]
    cases s.phase with
    | ready config => exact .refl s
    | closed => exact .refl s
    | uninitialized =>
      have entered : s.Performs [] (s.enter .connect) := performs_enter rfl
      simp only [Gateway.finishInit]
      split
      · exact entered.trans (performs_unseen (s.enter .connect) _ _ _ _)
      · exact entered.trans (performs_unseen (s.enter .connect) _ _ _ _)

theorem performs_close (s : Session) : s.Performs [] s.close.2 := by
  simp only [Session.close, Session.beginClose]
  by_cases busy : s.underway.isSome
  · rw [if_pos busy]
    exact .refl s
  · rw [if_neg busy]
    cases s.phase with
    | closed => exact performs_unseen s _ _ _ _
    | uninitialized => exact performs_unseen s _ _ _ _
    | ready config =>
      have entered : s.Performs [] (s.enter .close) := performs_enter rfl
      simp only [Session.finishClose]
      split
      · exact entered.trans (performs_unseen (s.enter .close) _ _ _ _)
      · exact entered.trans (performs_unseen (s.enter .close) _ _ _ _)

/-- Administration writes no counters, asks no provider and leaves no event. -/
theorem performs_administer (g : Gateway α) (s : Session) (step : AdminStep) :
    s.Performs [] (g.administer s step) := by
  cases step with
  | init => exact performs_init g s
  | close => exact performs_close s
  | reload config =>
    simp only [Gateway.administer, Session.reload]
    split
    · exact performs_unseen s _ _ _ _
    · exact .refl s
  | applyPolicy u =>
    simp only [Gateway.administer, Session.applyPolicy]
    split
    · exact .refl s
    · exact performs_unseen s _ _ _ _
  | usage key =>
    simp only [Gateway.administer, Session.usage]
    split
    · exact .refl s
    · split
      · exact performs_enter rfl
      · exact performs_enter rfl

/-- A step of traffic does what it adds to the trace. -/
theorem performs_advance (g : Gateway α) (t : Traffic) (working : t.session.Working)
    (step : TrafficStep) :
    ∃ acts, (g.advance t step).trace = t.trace ++ acts ∧
      t.session.Performs acts (g.advance t step).session := by
  cases step with
  | chat key model messages temperature maxTokens =>
    exact ⟨_, rfl, performs_chat t.requests.length working key model messages temperature maxTokens⟩
  | clock now => exact ⟨[], by simp [Gateway.advance], performs_unseen t.session _ _ _ now⟩
  | admin step =>
    exact ⟨[], by simp [Gateway.advance], performs_administer g t.session step⟩
  | drop n =>
    simp only [Gateway.advance]
    split
    · exact ⟨_, rfl, .silent rfl t.session⟩
    · exact ⟨[], by simp, .refl t.session⟩
  | answer n reply latencyMs =>
    by_cases waits : ∃ w since, t.requests[n]? = some ⟨w, since, .waiting⟩
    · obtain ⟨w, since, here⟩ := waits
      rw [Gateway.advance_answer_of_waiting here]
      exact ⟨_, rfl, performs_answer working n _ w reply latencyMs⟩
    · rw [Gateway.advance_answer_of_idle waits]
      exact ⟨[], (List.append_nil _).symm, .refl t.session⟩

/-- A run does what is in its trace. -/
theorem performs_traffic (g : Gateway α) (working : s.Working) (steps : List TrafficStep) :
    s.Performs (g.traffic s steps).trace (g.traffic s steps).session := by
  induction steps using List.reverseRecOn with
  | nil => exact .refl s
  | append_singleton steps step ih =>
    obtain ⟨acts, trace, performed⟩ :=
      performs_advance g (g.traffic s steps) (ih.working working) step
    rw [Gateway.traffic_concat, trace]
    exact ih.trans performed

end Operations

end ChatGateway

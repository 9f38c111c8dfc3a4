import ChatGateway.Proofs.Quota.Requests
import ChatGateway.Proofs.Session.Lives
import Mathlib.Data.List.Infix

/-!
# The bill of a session

Three records are kept of what a key consumes: the counters of the store, the events,
and the requests that were made to providers.  Whatever calls overlap, and wherever
each of them stops, the three agree: the counters show the cents of all events and the
estimates of all other requests, and the requests of the current window.

## Main definitions

* `Session.Fresh` — a session that was not used yet.
* `Traffic.centsOf`, `Traffic.requestsIn` — what the requests and events of a key add
  up to.
* `Traffic.Faithful` — a trace that says all that was done.
* `centsOf_advance` — one step keeps store and traffic together.
-/

namespace ChatGateway

variable {α : Type} {g : Gateway α}

/-! ## The cents in a store -/

namespace QuotaStore

/-- The cents that a key has spent. -/
def centsOf (store : QuotaStore) (key : String) : Nat :=
  ((store.keys.get? key).map fun s => s.spentCents.toNat).getD 0

theorem centsOf_le (store : QuotaStore) (key : String) : store.centsOf key ≤ word64Max := by
  unfold centsOf
  cases store.keys.get? key with
  | none => exact Nat.zero_le _
  | some s => exact toNat_le_word64Max s.spentCents

theorem centsOf_put (store : QuotaStore) (key key' : String) (s : KeyState) :
    (store.put key s).centsOf key' =
      if key' = key then s.spentCents.toNat else store.centsOf key' := by
  unfold centsOf
  rw [get?_put]
  split <;> rfl

/-- Entering a window keeps the cents. -/
theorem spentCents_stateIn (store : QuotaStore) (key : String) (window : Int) :
    (store.stateIn key window).spentCents.toNat = store.centsOf key := by
  have entered : ∀ s : KeyState, (s.enter window).spentCents = s.spentCents := by
    intro s
    unfold KeyState.enter
    split <;> rfl
  unfold stateIn centsOf
  rw [entered]
  cases store.keys.get? key <;> rfl

theorem centsOf_of_reserve_deny {store store' : QuotaStore} {key : String} {spec : QuotaSpec}
    {window : Int} {tokens cost : UInt64} {d : Denial}
    (h : store.reserve key spec window tokens cost = (.deny d, store')) (key' : String) :
    store'.centsOf key' = store.centsOf key' := by
  cases denied : (store.stateIn key window).denial? key spec tokens cost with
  | none =>
    rw [reserve_of_admitted denied] at h
    cases h
  | some d' =>
    rw [reserve_of_denied denied] at h
    cases h
    rw [centsOf_put, spentCents_stateIn]
    split
    · rename_i own
      rw [own]
    · rfl

theorem centsOf_of_reserve_allow {store store' : QuotaStore} {key : String} {spec : QuotaSpec}
    {window : Int} {tokens cost : UInt64} {r : Reservation}
    (h : store.reserve key spec window tokens cost = (.allow r, store')) (key' : String) :
    store'.centsOf key' =
      if key = key' then min (store.centsOf key' + cost.toNat) word64Max
      else store.centsOf key' := by
  cases denied : (store.stateIn key window).denial? key spec tokens cost with
  | some d =>
    rw [reserve_of_denied denied] at h
    cases h
  | none =>
    rw [reserve_of_admitted denied] at h
    cases h
    rw [centsOf_put]
    by_cases own : key = key'
    · subst own
      simp only [if_true, KeyState.charge, toNat_satAdd, spentCents_stateIn]
    · rw [if_neg own, if_neg (Ne.symm own)]

theorem centsOf_reconcile (store : QuotaStore) (r : Reservation) (window : Int)
    (tokens cost : UInt64) (key : String) :
    (store.reconcile r window tokens cost).centsOf key =
      if r.key = key then min (store.centsOf key - r.costCents.toNat + cost.toNat) word64Max
      else store.centsOf key := by
  rw [reconcile, centsOf_put]
  by_cases own : r.key = key
  · subst own
    simp only [if_true, KeyState.settle, toNat_satAdd, toNat_satSub, spentCents_stateIn]
  · rw [if_neg own, if_neg (Ne.symm own)]

end QuotaStore

/-! ## The cents of the traffic -/

/-- The cents that a request holds for a key: its estimate, unless it was served. -/
def Request.centsOf (key : String) (c : Request) : Nat :=
  if c.key = key ∧ c.isServed = false then c.waiting.estimatedCost.toNat else 0

/-- The cents of the events of a key. -/
def EventLog.centsOf (log : EventLog) (key : String) : Nat :=
  ((log.forKey key).map fun e => e.costCents.toNat).sum

/-- The cents of a key: those of its events, and the estimates of its requests that
were not served. -/
def Traffic.centsOf (t : Traffic) (key : String) : Nat :=
  t.session.events.centsOf key + (t.requests.map (Request.centsOf key)).sum

/-- The requests that a key made under reservations of a window. -/
def Traffic.requestsIn (t : Traffic) (key : String) (window : Int) : Nat :=
  t.requests.countP fun c => c.key = key ∧ c.waiting.reservation.window = window

theorem EventLog.centsOf_record (log : EventLog) (e : UsageEvent) (key : String) :
    (log.record e).centsOf key =
      log.centsOf key + if e.key = key then e.costCents.toNat else 0 := by
  by_cases own : e.key = key
  · simp [centsOf, forKey, record, own]
  · simp [centsOf, forKey, record, own]

/-- Putting one element in the place of another changes a sum by the two. -/
theorem sum_map_set {β : Type} (f : β → Nat) {l : List β} {n : Nat} {b : β} (here : l[n]? = some b)
    (b' : β) : ((l.set n b').map f).sum + f b = (l.map f).sum + f b' := by
  obtain ⟨inside, rfl⟩ := List.getElem?_eq_some_iff.1 here
  have parts : ∃ before after, l = before ++ l[n] :: after ∧ before.length = n ∧
      l.set n b' = before ++ b' :: after := List.exists_of_set inside
  obtain ⟨before, after, split, -, replaced⟩ := parts
  rw [replaced]
  conv_rhs => rw [split]
  simp only [List.map_append, List.map_cons, List.sum_append, List.sum_cons]
  omega

/-- A walk charges the request that it ends with. -/
theorem centsOf_walk (call : Call) {s : Session} (working : s.Working) (trail : Trail)
    (candidates : List String) (key : String) :
    (g.walk call trail s candidates).2.store.centsOf key =
      min (s.store.centsOf key
        + (((g.walk call trail s candidates).1.requests s.now).map (Request.centsOf key)).sum)
        word64Max := by
  induction trail, s, candidates using Gateway.walk_induction g call with
  | exhausted trail s => exact (Nat.min_eq_left (s.store.centsOf_le key)).symm
  | unroutable trail s candidate rest fault reached ih =>
    rw [Gateway.walk_of_unroutable reached]
    exact ih working
  | denied trail s candidate rest route secret d store reached asked ih =>
    have kept : store.centsOf key = s.store.centsOf key :=
      QuotaStore.centsOf_of_reserve_deny asked key
    rw [Gateway.walk_of_denied working reached asked, ← kept]
    exact ih (working.asked store)
  | admitted trail s candidate rest route secret r store reached asked =>
    rw [Gateway.walk_of_admitted working reached asked]
    have charged := QuotaStore.centsOf_of_reserve_allow asked key
    have bounded := s.store.centsOf_le key
    simp only [Session.store_dispatch, Session.store_asked, Progress.requests, List.map_cons,
      List.map_nil, List.sum_cons, List.sum_nil, Request.centsOf, Request.key, Request.isServed,
      Gateway.waitingOn, and_true, charged]
    split <;> omega

/-! ## One step -/

section Steps

variable {t : Traffic} {key : String}

/-- A walk that follows some acts keeps store and traffic together. -/
theorem centsOf_follow (call : Call) (working : t.session.Working) (trail : Trail)
    (candidates : List String) (acts : List Act) (ended : Except GatewayError ChatResponse → Act)
    (agree : t.session.store.centsOf key = t.centsOf key)
    (fits : (t.follow acts ended (g.walk call trail t.session candidates)).centsOf key ≤
      word64Max) :
    (g.walk call trail t.session candidates).2.store.centsOf key =
      (t.follow acts ended (g.walk call trail t.session candidates)).centsOf key := by
  have charged := centsOf_walk (g := g) call working trail candidates key
  simp only [Traffic.centsOf, Traffic.follow, Gateway.events_walk g call working, List.map_append,
    List.sum_append] at agree fits ⊢
  omega

/-- A request that was not served and is not served now holds what it held. -/
theorem centsOf_unserved {n : Nat} {w : Waiting} {since : Instant} {fate : Fate}
    (here : t.requests[n]? = some ⟨w, since, .waiting⟩)
    (unserved : Request.isServed ⟨w, since, fate⟩ = false) :
    Traffic.centsOf { t with requests := t.requests.set n ⟨w, since, fate⟩ } key =
      t.centsOf key := by
  have swapped := sum_map_set (Request.centsOf key) here ⟨w, since, fate⟩
  have same : Request.centsOf key ⟨w, since, fate⟩ = Request.centsOf key ⟨w, since, .waiting⟩ := by
    unfold Request.centsOf
    rw [unserved]
    rfl
  simp only [Traffic.centsOf]
  omega

/-- A served request no longer holds its estimate; its bill is in its event. -/
theorem centsOf_served (working : t.session.Working) {n : Nat} {w : Waiting} {since : Instant}
    (here : t.requests[n]? = some ⟨w, since, .waiting⟩) (sound : w.Sound g)
    (response : ChatResponse) (latencyMs : UInt64)
    (agree : t.session.store.centsOf key = t.centsOf key)
    (fits : (g.advance t (.answer n (.ok response) latencyMs)).centsOf key ≤ word64Max) :
    (g.advance t (.answer n (.ok response) latencyMs)).session.store.centsOf key =
      (g.advance t (.answer n (.ok response) latencyMs)).centsOf key := by
  have swapped : ((t.requests.set n ⟨w, since, g.fate w (.ok response) latencyMs t.session⟩).map
      (Request.centsOf key)).sum + (if w.call.key = key then w.estimatedCost.toNat else 0) =
        (t.requests.map (Request.centsOf key)).sum := by
    simpa [Request.centsOf, Request.key, Request.isServed, Gateway.fate] using
      sum_map_set (Request.centsOf key) here ⟨w, since, g.fate w (.ok response) latencyMs t.session⟩
  have left : (t.session.events.record (g.event w response latencyMs t.session.now)).centsOf key =
      t.session.events.centsOf key
        + if w.call.key = key then (g.bill w response).2.toNat else 0 :=
    EventLog.centsOf_record t.session.events (g.event w response latencyMs t.session.now) key
  have billed := QuotaStore.centsOf_reconcile t.session.store w.reservation
    (windowOf t.session.now) (g.bill w response).1 (g.bill w response).2 key
  rw [sound.key_reserved, sound.cost_reserved] at billed
  rw [Gateway.advance_answer_of_waiting here, Gateway.answer_of_ok working] at fits ⊢
  simp only [Traffic.follow, Session.emit, Progress.requests, List.append_nil, Traffic.centsOf,
    Gateway.store_record working, Gateway.events_record working] at agree fits ⊢
  rw [billed]
  by_cases own : w.call.key = key
  · simp only [own, if_true] at *
    omega
  · simp only [own, if_false] at *
    omega

/-- A request that fails still holds its estimate, and the call goes on with another. -/
theorem centsOf_failed (working : t.session.Working) {n : Nat} {w : Waiting} {since : Instant}
    (here : t.requests[n]? = some ⟨w, since, .waiting⟩) (e : ProviderError) (latencyMs : UInt64)
    (agree : t.session.store.centsOf key = t.centsOf key)
    (fits : (g.advance t (.answer n (.error e) latencyMs)).centsOf key ≤ word64Max) :
    (g.advance t (.answer n (.error e) latencyMs)).session.store.centsOf key =
      (g.advance t (.answer n (.error e) latencyMs)).centsOf key := by
  let told : Traffic := { t with
    requests := t.requests.set n ⟨w, since, g.fate w (.error e) latencyMs t.session⟩ }
  have agree : told.session.store.centsOf key = told.centsOf key :=
    agree.trans (centsOf_unserved here rfl).symm
  rw [Gateway.advance_answer_of_waiting here] at fits ⊢
  cases passes : e.retryable with
  | true =>
    rw [Gateway.answer_of_retryable passes] at fits ⊢
    exact centsOf_follow (t := told) w.call working _ w.rest _ _ agree fits
  | false =>
    rw [Gateway.answer_of_fatal passes]
    simp only [Traffic.follow, Progress.requests, List.append_nil]
    exact agree

/-- A step keeps store and traffic together, if the cents fit in a word. -/
theorem centsOf_advance (lived : Lived g t.requests t.trace) (working : t.session.Working)
    (agree : t.session.store.centsOf key = t.centsOf key) (step : TrafficStep)
    (fits : (g.advance t step).centsOf key ≤ word64Max) :
    (g.advance t step).session.store.centsOf key = (g.advance t step).centsOf key := by
  cases step with
  | chat key' model messages temperature maxTokens =>
    simp only [Gateway.advance, Gateway.chat_eq] at fits ⊢
    cases opened : t.session.open? key' model messages temperature maxTokens with
    | error e =>
      simp only [Traffic.follow, Progress.requests, List.append_nil]
      exact agree
    | ok call =>
      simp only [opened] at fits ⊢
      exact centsOf_follow call working {} call.candidates _ _ agree fits
  | clock now => exact agree
  | admin step =>
    have kept := performs_administer g t.session step
    have store : (g.administer t.session step).store = t.session.store :=
      (Option.some.inj kept.replay_eq).symm
    have events : (g.administer t.session step).events = t.session.events :=
      congrArg EventLog.mk (by simpa using kept.events_eq)
    simp only [Gateway.advance, Traffic.centsOf, store, events]
    exact agree
  | drop n =>
    simp only [Gateway.advance]
    split
    · rename_i w since here
      exact agree.trans (centsOf_unserved here rfl).symm
    · exact agree
  | answer n reply latencyMs =>
    by_cases waits : ∃ w since, t.requests[n]? = some ⟨w, since, .waiting⟩
    · obtain ⟨w, since, here⟩ := waits
      cases reply with
      | ok response =>
        have sound := (lived.sound _ (List.mem_of_getElem? here)).waiting
        exact centsOf_served working here sound response latencyMs agree fits
      | error e => exact centsOf_failed working here e latencyMs agree fits
    · rw [Gateway.advance_answer_of_idle waits]
      exact agree

end Steps

/-! ## Whole runs -/

/-- A session that was not used yet: its store is empty and works, no provider was asked
and no event left. -/
structure Session.Fresh (s : Session) : Prop where
  working : s.Working
  store_eq : s.store = {}
  writes_eq : s.writes = []
  events_eq : s.events = {}
  dispatches_eq : s.dispatches = []

/-- The trace of a run says all that was done, and tells of each request its life. -/
structure Traffic.Faithful (g : Gateway α) (t : Traffic) : Prop where
  /-- An empty store gives the answers of the trace, and becomes that of the session. -/
  store_eq : ({} : QuotaStore).replay t.trace = some t.session.store
  writes_eq : t.session.writes = t.trace.filterMap Act.method?
  events_eq : t.session.events.events = t.trace.filterMap Act.emitted?
  dispatches_eq : t.session.dispatches = t.trace.filterMap Act.dispatched?
  lived : Lived g t.requests t.trace

theorem faithful_traffic {s : Session} (fresh : s.Fresh) (steps : List TrafficStep) :
    (g.traffic s steps).Faithful g := by
  have done := performs_traffic g fresh.working steps
  constructor
  · rw [← fresh.store_eq]
    exact done.replay_eq
  · rw [done.writes_eq, fresh.writes_eq, List.nil_append]
  · rw [done.events_eq, fresh.events_eq, List.nil_append]
  · rw [done.dispatches_eq, fresh.dispatches_eq, List.nil_append]
  · exact lived_traffic fresh.working steps

/-- The cents of the store are those of the traffic, if they always fit in a word. -/
theorem centsOf_traffic {s : Session} (fresh : s.Fresh) {key : String} {steps : List TrafficStep}
    (fits : ∀ past, past <+: steps → (g.traffic s past).centsOf key ≤ word64Max) :
    (g.traffic s steps).session.store.centsOf key = (g.traffic s steps).centsOf key := by
  induction steps using List.reverseRecOn with
  | nil =>
    simp only [Gateway.traffic, List.foldl_nil, Traffic.centsOf, fresh.store_eq, fresh.events_eq]
    rfl
  | append_singleton steps step ih =>
    have earlier : steps <+: steps ++ [step] := List.prefix_append _ _
    have before := ih fun past h => fits past (h.trans earlier)
    have last := fits _ List.prefix_rfl
    rw [Gateway.traffic_concat] at last ⊢
    exact centsOf_advance (lived_traffic fresh.working steps)
      ((performs_traffic g fresh.working steps).working fresh.working) before step last

/-! ## The store of a trace -/

/-- An act that is performed is no call of the store, or the call that it stands for; and
then it gives out to a key what it says. -/
theorem QuotaStore.of_perform {store store' : QuotaStore} {act : Act}
    (h : store.perform act = some store') :
    (act.storeCall? = none ∧ act.admitted? = none ∧ store' = store) ∨
      ∃ call, act.storeCall? = some call ∧ store' = store.after call ∧
        ∀ key a, ((StoreEntry.mk store call).book key a).allowed =
          a.allowed ++ act.admitted?.toList.filter fun r => r.key = key := by
  cases act with
  | ended outcome => exact .inl ⟨rfl, rfl, (Option.some.inj h).symm⟩
  | denied spec window tokens cost d =>
    rcases asked : store.reserve d.key spec window tokens cost with ⟨answer, after⟩
    simp only [perform, asked] at h
    split at h
    · rename_i denied
      cases h
      refine .inr ⟨_, rfl, by simp [QuotaStore.after, asked], ?_⟩
      intro key a
      simp [StoreEntry.book, asked, denied, Act.admitted?]
    · cases h
  | request n a =>
    cases a with
    | dispatched => exact .inl ⟨rfl, rfl, (Option.some.inj h).symm⟩
    | dropped => exact .inl ⟨rfl, rfl, (Option.some.inj h).symm⟩
    | failed => exact .inl ⟨rfl, rfl, (Option.some.inj h).symm⟩
    | answered => exact .inl ⟨rfl, rfl, (Option.some.inj h).symm⟩
    | emitted => exact .inl ⟨rfl, rfl, (Option.some.inj h).symm⟩
    | ended => exact .inl ⟨rfl, rfl, (Option.some.inj h).symm⟩
    | recorded window r tokens cost =>
      refine .inr ⟨_, rfl, (Option.some.inj h).symm, ?_⟩
      intro key a
      by_cases own : r.key = key
      · simp [StoreEntry.book, own, Act.admitted?]
      · simp [StoreEntry.book, own, Act.admitted?]
    | admitted spec window r =>
      rcases asked : store.reserve r.key spec window r.tokens r.costCents with ⟨answer, after⟩
      simp only [perform, asked] at h
      split at h
      · rename_i allowed
        cases h
        refine .inr ⟨_, rfl, by simp [QuotaStore.after, asked], ?_⟩
        intro key a
        by_cases own : r.key = key
        · subst own
          simp [StoreEntry.book, asked, allowed, Act.admitted?]
        · simp [StoreEntry.book, own, Act.admitted?]
      · cases h

/-- A store that performs a trace was called as the trace says, and gave out to each key
what the trace says. -/
theorem run_of_replay {trace : List Act} {store : QuotaStore}
    (h : ({} : QuotaStore).replay trace = some store) :
    store = ({} : QuotaStore).run (trace.filterMap Act.storeCall?) ∧
      ∀ key, (accountOf key (trace.filterMap Act.storeCall?)).allowed =
        (trace.filterMap Act.admitted?).filter fun r => r.key = key := by
  induction trace using List.reverseRecOn generalizing store with
  | nil =>
    cases h
    exact ⟨rfl, fun _ => rfl⟩
  | append_singleton trace act ih =>
    rw [QuotaStore.replay_append, Option.bind_eq_some_iff] at h
    obtain ⟨found, before, last⟩ := h
    obtain ⟨rfl, allowed⟩ := ih before
    rw [QuotaStore.replay_singleton] at last
    rcases QuotaStore.of_perform last with ⟨silent, nothing, rfl⟩ | ⟨call, called, rfl, gives⟩
    · simp only [List.filterMap_append, List.filterMap_cons_none silent,
        List.filterMap_cons_none nothing, List.filterMap_nil, List.append_nil]
      exact ⟨trivial, allowed⟩
    · rw [List.filterMap_append, List.filterMap_cons_some called, List.filterMap_nil]
      refine ⟨(QuotaStore.run_concat _ _ call).symm, fun key => ?_⟩
      rw [accountOf_concat, gives, allowed, List.filterMap_append, List.filter_append]
      cases given : act.admitted? with
      | none => rw [List.filterMap_cons_none given, List.filterMap_nil, Option.toList_none]
      | some r => rw [List.filterMap_cons_some given, List.filterMap_nil, Option.toList_some]

/-- The counter of the current window shows the requests of the traffic, up to the size of
a word. -/
theorem requests_traffic {s : Session} (fresh : s.Fresh) (steps : List TrafficStep) {key : String}
    {st : KeyState} (seen : (g.traffic s steps).session.store.keys.get? key = some st) :
    st.requests.toNat = (g.traffic s steps).requestsIn key st.window % 2 ^ 64 := by
  have faithful := faithful_traffic (g := g) fresh steps
  obtain ⟨store, allowed⟩ := run_of_replay faithful.store_eq
  have agree := tracked key ((g.traffic s steps).trace.filterMap Act.storeCall?)
  rw [countersOf, ← store, seen] at agree
  rw [Account.Current.requests_eq agree, Account.requestsIn, allowed, faithful.lived.admissions,
    List.countP_filter, List.countP_map, Traffic.requestsIn]
  congr 1
  refine List.countP_congr fun c mem => ?_
  have own : c.waiting.reservation.key = c.key := (faithful.lived.sound c mem).waiting.key_reserved
  simp [own, and_comm]

/-- **The bill of a session.**  Whatever calls overlap, and wherever each of them stops:
the trace of a run tells of each request its life, and says all that was done.  The cents
of a key in the store are those of its events and the estimates of its other requests, if
they always fit in a word; and its counter of the current window is the number of its
requests that were admitted in that window. -/
theorem bill_matches_store (g : Gateway α) (s : Session) (fresh : s.Fresh)
    (steps : List TrafficStep) (key : String) :
    (g.traffic s steps).Faithful g ∧
      ((∀ past, past <+: steps → (g.traffic s past).centsOf key ≤ word64Max) →
        (g.traffic s steps).session.store.centsOf key = (g.traffic s steps).centsOf key) ∧
      ∀ st, (g.traffic s steps).session.store.keys.get? key = some st →
        (g.traffic s steps).requestsIn key st.window ≤ word64Max →
          st.requests.toNat = (g.traffic s steps).requestsIn key st.window := by
  refine ⟨faithful_traffic fresh steps, centsOf_traffic fresh, ?_⟩
  intro st seen fits
  rw [requests_traffic fresh steps seen, Nat.mod_eq_of_lt]
  simp only [word64Max] at fits
  omega

/-- A gateway with one provider, which serves two models, at a cent for every token. -/
def overlapGateway : Gateway Unit where
  config := {
    apiKeys := .ofList [("p", "secret")]
    routingRules := [⟨"two", 0, ["m", "n"]⟩] }
  registry := ⟨[⟨"p", fun _ => true, ()⟩]⟩
  pricing := .flatRate 1000 .empty

/-- A session of it that is ready. -/
def overlapSession : Session := { phase := .ready overlapGateway.config }

/-- Two calls overlap.  The first fails over to the other model and is given up there; the
second is answered in the next minute, and cost less than it held.  A third waits. -/
def overlapSteps : List TrafficStep :=
  [.chat "k" "m" [⟨.user, "hello"⟩] none (some 20),
   .chat "k" "m" [⟨.user, "hello"⟩] none (some 30),
   .answer 0 (.error { provider := "p", retryable := true, message := "busy" }) 5,
   .clock (.ofMillis 60000),
   .answer 1 (.ok { usage := some (.ofParts 2 5) }) 8,
   .drop 2,
   .chat "k" "n" [] none (some 4)]

theorem bill_matches_store_overlapping :
    overlapSession.Fresh ∧
      (∀ past, past <+: overlapSteps →
        (overlapGateway.traffic overlapSession past).centsOf "k" ≤ word64Max) ∧
      (overlapGateway.traffic overlapSession overlapSteps).session.store.centsOf "k" = 55 ∧
      (overlapGateway.traffic overlapSession overlapSteps).session.store.keys.get? "k" =
        some ⟨1, 1, 11, 55⟩ ∧
      (overlapGateway.traffic overlapSession overlapSteps).requestsIn "k" 1 ≤ word64Max ∧
      1 = (overlapGateway.traffic overlapSession overlapSteps).requestsIn "k" 1 := by
  have fresh : overlapSession.Fresh := ⟨fun _ => rfl, rfl, rfl, rfl, rfl⟩
  have fits : ∀ past, past <+: overlapSteps →
      (overlapGateway.traffic overlapSession past).centsOf "k" ≤ word64Max := by
    intro past h
    rw [← List.mem_inits] at h
    revert past
    decide +kernel
  have counters : (overlapGateway.traffic overlapSession overlapSteps).session.store.keys.get? "k" =
      some ⟨1, 1, 11, 55⟩ := by decide +kernel
  have few : (overlapGateway.traffic overlapSession overlapSteps).requestsIn "k" 1 ≤ word64Max := by
    decide +kernel
  obtain ⟨-, cents, requests⟩ :=
    bill_matches_store overlapGateway overlapSession fresh overlapSteps "k"
  refine ⟨fresh, fits, ?_, counters, few, requests _ counters few⟩
  rw [cents fits]
  decide +kernel
end ChatGateway

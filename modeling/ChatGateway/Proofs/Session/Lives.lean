import ChatGateway.Proofs.Session.Performance

/-!
# The lives of requests

A trace tells of many requests at once, in whatever order their calls go on.  Taken
apart, it tells of each exactly what its life is: one admission of its own, the
request to the provider, and, if the provider answers, one settlement, one event and
the answer of the call.

## Main definitions

* `Waiting.Sound`, `Request.Sound` — what a request asks for is what it reserved, and
  its event is that of its answer.
* `Lived` — a trace that tells of these requests, and of no others.
* `lived_traffic` — whole runs.
-/

namespace ChatGateway

variable {α : Type} {g : Gateway α}

/-! ## Sound requests -/

/-- A waiting call reserved, for its own key, what its request is expected to consume. -/
structure Waiting.Sound (g : Gateway α) (w : Waiting) : Prop where
  tokens_eq : w.estimatedTokens = w.dispatch.request.estimatedTokens
  cost_eq : w.estimatedCost = g.pricing.estimate w.route.model w.estimatedTokens
  key_reserved : w.reservation.key = w.call.key
  tokens_reserved : w.reservation.tokens = w.estimatedTokens
  cost_reserved : w.reservation.costCents = w.estimatedCost

/-- The event of a served request bills what the answer says, or else the estimate. -/
structure Request.Sound (g : Gateway α) (c : Request) : Prop where
  waiting : c.waiting.Sound g
  event : ∀ response e, c.fate = .served response e →
    ∃ latencyMs now, e = g.event c.waiting response latencyMs now

/-- A request that was not served has no event to answer for. -/
theorem Request.Sound.of_unserved {c : Request} (waiting : c.waiting.Sound g)
    (unserved : c.isServed = false) : c.Sound g := by
  refine ⟨waiting, ?_⟩
  intro response e served
  rw [isServed, served] at unserved
  cases unserved

/-- A walk ends with an error, or waits for a sound request. -/
theorem progress_walk (call : Call) {s : Session} (working : s.Working) (trail : Trail)
    (candidates : List String) :
    (∃ e, (g.walk call trail s candidates).1 = .done (.error e)) ∨
      ∃ w, (g.walk call trail s candidates).1 = .waiting w ∧ w.Sound g ∧ w.call = call := by
  induction trail, s, candidates using Gateway.walk_induction g call with
  | exhausted trail s => exact .inl ⟨_, rfl⟩
  | unroutable trail s candidate rest fault reached ih =>
    rw [Gateway.walk_of_unroutable reached]
    exact ih working
  | denied trail s candidate rest route secret d store reached asked ih =>
    rw [Gateway.walk_of_denied working reached asked]
    exact ih (working.asked store)
  | admitted trail s candidate rest route secret r store reached asked =>
    rw [Gateway.walk_of_admitted working reached asked]
    obtain ⟨key, tokens, cost⟩ := QuotaStore.of_reserve_allow asked
    exact .inr ⟨_, rfl, ⟨rfl, rfl, key, tokens, cost⟩, rfl⟩

/-! ## What acts tell of a request -/

theorem lifeOf_append (trace later : List Act) (n : Nat) :
    lifeOf (trace ++ later) n = lifeOf trace n ++ lifeOf later n :=
  List.filterMap_append

/-- Acts of one request tell of it, and of no other. -/
theorem lifeOf_map_request (acts : List RequestAct) (n m : Nat) :
    lifeOf (acts.map (.request n)) m = if n = m then acts else [] := by
  by_cases h : n = m
  · simp [lifeOf, List.filterMap_map, Function.comp_def, Act.of?, h]
  · simp [lifeOf, List.filterMap_map, Function.comp_def, Act.of?, h]

/-- What tells nothing of denials tells nothing of the denials of a walk. -/
theorem filterMap_denials {β : Type} {f : Act → Option β}
    (h : ∀ spec window tokens cost d, f (.denied spec window tokens cost d) = none) (call : Call)
    (now : Instant) (store : QuotaStore) (candidates : List String) :
    (g.denials call now store candidates).filterMap f = [] := by
  induction candidates generalizing store with
  | nil => rfl
  | cons candidate rest ih =>
    simp only [Gateway.denials]
    split
    · exact ih store
    · split
      · rfl
      · rw [List.filterMap_cons_none (h _ _ _ _ _)]
        exact ih _

theorem ended_notMem_denials (outcome : Except GatewayError ChatResponse) (call : Call)
    (now : Instant) (store : QuotaStore) (candidates : List String) :
    .ended outcome ∉ g.denials call now store candidates := by
  induction candidates generalizing store with
  | nil => simp [Gateway.denials]
  | cons candidate rest ih =>
    simp only [Gateway.denials]
    split
    · exact ih store
    · split
      · simp
      · simpa using ih _

/-! ## Traces that tell of requests -/

/-- A trace tells of each request its life, and of no other request.  What it gives out
is what they hold, and no call is answered without a request. -/
structure Lived (g : Gateway α) (requests : List Request) (trace : List Act) : Prop where
  lives : ∀ n, lifeOf trace n = (requests[n]?).elim [] Request.life
  admissions : trace.filterMap Act.admitted? = requests.map (·.waiting.reservation)
  sound : ∀ c ∈ requests, c.Sound g
  refusals : ∀ outcome, .ended outcome ∈ trace → ∃ e, outcome = .error e

namespace Lived

variable {requests : List Request} {trace : List Act}

theorem nil : Lived g [] [] := by
  constructor <;> simp [lifeOf]

/-- Denials tell of no request. -/
theorem denials (h : Lived g requests trace) (call : Call) (now : Instant) (store : QuotaStore)
    (candidates : List String) :
    Lived g requests (trace ++ g.denials call now store candidates) := by
  constructor
  · intro n
    rw [lifeOf_append, lifeOf, lifeOf, filterMap_denials (fun _ _ _ _ _ => rfl), List.append_nil]
    exact h.lives n
  · rw [List.filterMap_append, filterMap_denials (fun _ _ _ _ _ => rfl), List.append_nil]
    exact h.admissions
  · exact h.sound
  · intro outcome mem
    rcases List.mem_append.1 mem with mem | mem
    · exact h.refusals outcome mem
    · exact absurd mem (ended_notMem_denials outcome call now store candidates)

/-- A call may end in an error before it asked a provider. -/
theorem refused (h : Lived g requests trace) (e : GatewayError) :
    Lived g requests (trace ++ [.ended (.error e)]) := by
  constructor
  · intro n
    rw [lifeOf_append, h.lives n]
    exact List.append_nil _
  · rw [List.filterMap_append, h.admissions]
    exact List.append_nil _
  · exact h.sound
  · intro outcome mem
    rcases List.mem_append.1 mem with mem | mem
    · exact h.refusals outcome mem
    · obtain rfl := Act.ended.inj (List.mem_singleton.1 mem)
      exact ⟨e, rfl⟩

/-- A further request begins its life. -/
theorem opened (h : Lived g requests trace) {w : Waiting} (sound : w.Sound g) (since : Instant) :
    Lived g (requests ++ [⟨w, since, .waiting⟩])
      (trace ++ (Request.opening ⟨w, since, .waiting⟩).map (.request requests.length)) := by
  constructor
  · intro n
    rw [lifeOf_append, h.lives n, lifeOf_map_request]
    by_cases here : requests.length = n
    · subst here
      simp [Request.life]
    · rw [if_neg here, List.append_nil]
      rcases Nat.lt_or_gt_of_ne here with past | before
      · have longer : (requests ++ [Request.mk w since .waiting]).length ≤ n := by
          rw [List.length_append, List.length_singleton]
          exact past
        rw [List.getElem?_eq_none longer, List.getElem?_eq_none (Nat.le_of_lt past)]
      · rw [List.getElem?_append_left before]
  · rw [List.filterMap_append, h.admissions, List.map_append]
    rfl
  · intro c mem
    rcases List.mem_append.1 mem with mem | mem
    · exact h.sound c mem
    · obtain rfl := List.mem_singleton.1 mem
      exact .of_unserved sound rfl
  · intro outcome mem
    rcases List.mem_append.1 mem with mem | mem
    · exact h.refusals outcome mem
    · simp at mem

/-- A request goes on with its life. -/
theorem told (h : Lived g requests trace) {n : Nat} {c : Request} (here : requests[n]? = some c)
    (fate : Fate) (acts : List RequestAct) (sound : Request.Sound g { c with fate := fate })
    (life : Request.life { c with fate := fate } = c.life ++ acts)
    (unasked : (acts.map (.request n)).filterMap Act.admitted? = []) :
    Lived g (requests.set n { c with fate := fate }) (trace ++ acts.map (.request n)) := by
  obtain ⟨inside, value⟩ := List.getElem?_eq_some_iff.1 here
  constructor
  · intro m
    rw [lifeOf_append, h.lives m, lifeOf_map_request]
    by_cases own : n = m
    · subst own
      rw [if_pos rfl, here, List.getElem?_set_self inside]
      exact life.symm
    · rw [if_neg own, List.append_nil, List.getElem?_set_ne own]
  · have bound : n < (requests.map (·.waiting.reservation)).length := by
      rw [List.length_map]
      exact inside
    have held : (requests.map (·.waiting.reservation))[n] = c.waiting.reservation := by
      rw [List.getElem_map, value]
    rw [List.filterMap_append, h.admissions, unasked, List.append_nil, List.map_set, ← held,
      List.set_getElem_self]
  · intro d mem
    rcases List.mem_or_eq_of_mem_set mem with mem | rfl
    · exact h.sound d mem
    · exact sound
  · intro outcome mem
    rcases List.mem_append.1 mem with mem | mem
    · exact h.refusals outcome mem
    · simp at mem

end Lived

/-! ## Steps of traffic -/

section Steps

variable {requests : List Request} {trace : List Act} {s : Session}

theorem lived_chat (h : Lived g requests trace) (working : s.Working) (key model : String)
    (messages : List Message) (temperature : Option Binary) (maxTokens : Option UInt32) :
    Lived g
      (requests ++ (g.chat s key model messages temperature maxTokens).1.requests s.now)
      (trace ++ ((match s.open? key model messages temperature maxTokens with
          | .error _ => []
          | .ok call => g.denials call s.now s.store call.candidates)
        ++ (g.chat s key model messages temperature maxTokens).1.acts requests.length s.now
          .ended)) := by
  rw [Gateway.chat_eq, ← List.append_assoc]
  cases s.open? key model messages temperature maxTokens with
  | error e =>
    simp only [Progress.requests, Progress.acts, List.append_nil]
    exact h.refused e
  | ok call =>
    have denied := h.denials call s.now s.store call.candidates
    rcases progress_walk (g := g) call working {} call.candidates with
      ⟨e, done⟩ | ⟨w, waits, sound, -⟩
    · simp only [done, Progress.requests, Progress.acts, List.append_nil]
      exact denied.refused e
    · simp only [waits, Progress.requests, Progress.acts]
      exact denied.opened sound s.now

/-- A request that is answered is settled and leaves its event, and that is all. -/
theorem lived_served (h : Lived g requests trace) (working : s.Working) {n : Nat} {w : Waiting}
    {since : Instant} (here : requests[n]? = some ⟨w, since, .waiting⟩) (response : ChatResponse)
    (latencyMs : UInt64) :
    Lived g
      (requests.set n ⟨w, since, g.fate w (.ok response) latencyMs s⟩
        ++ (g.answer w (.ok response) latencyMs s).1.requests s.now)
      (trace ++ (g.replyActs n w (.ok response) latencyMs s
        ++ (g.answer w (.ok response) latencyMs s).1.acts requests.length s.now fun outcome =>
          .request n (.ended outcome))) := by
  have waiting := (h.sound _ (List.mem_of_getElem? here)).waiting
  rw [Gateway.answer_of_ok working]
  simp only [Progress.requests, List.append_nil]
  refine h.told here (g.fate w (.ok response) latencyMs s) _ ⟨waiting, ?_⟩ rfl rfl
  intro response' e served
  cases served
  exact ⟨latencyMs, s.now, rfl⟩

/-- A request that fails is not settled, and its call goes on with another request or
ends. -/
theorem lived_failed (h : Lived g requests trace) (working : s.Working) {n : Nat} {w : Waiting}
    {since : Instant} (here : requests[n]? = some ⟨w, since, .waiting⟩) (e : ProviderError)
    (latencyMs : UInt64) :
    Lived g
      (requests.set n ⟨w, since, g.fate w (.error e) latencyMs s⟩
        ++ (g.answer w (.error e) latencyMs s).1.requests s.now)
      (trace ++ (g.replyActs n w (.error e) latencyMs s
        ++ (g.answer w (.error e) latencyMs s).1.acts requests.length s.now fun outcome =>
          .request n (.ended outcome))) := by
  have waiting := (h.sound _ (List.mem_of_getElem? here)).waiting
  have inside := (List.getElem?_eq_some_iff.1 here).1
  have sound : ∀ ending, Request.Sound g ⟨w, since, .failed e ending⟩ :=
    fun ending => .of_unserved waiting rfl
  have failed : Lived g (requests.set n ⟨w, since, .failed e none⟩)
      (trace ++ [.request n (.failed e)]) :=
    h.told here (.failed e none) [.failed e] (sound none) rfl rfl
  -- The call ends after its denials, so its end is told apart from the failure.
  have finished : ∀ {trace' : List Act} (ending : GatewayError),
      Lived g (requests.set n ⟨w, since, .failed e none⟩) trace' →
      Lived g (requests.set n ⟨w, since, .failed e (some ending)⟩)
        (trace' ++ [.request n (.ended (.error ending))]) := by
    intro trace' ending h'
    have := h'.told (List.getElem?_set_self inside) (.failed e (some ending))
      [.ended (.error ending)] (sound (some ending)) rfl rfl
    rwa [List.set_set] at this
  cases passes : e.retryable with
  | false =>
    simp only [Gateway.fate, Gateway.replyActs, Gateway.answer_of_fatal passes, passes,
      Progress.requests, Progress.acts, Progress.error?, List.append_nil, ← List.append_assoc]
    exact finished _ failed
  | true =>
    have denied := failed.denials w.call s.now s.store w.rest
    simp only [Gateway.fate, Gateway.replyActs, Gateway.answer_of_retryable passes, passes, if_true]
    rcases progress_walk (g := g) w.call working (w.trail.push w.candidate (.provider e))
        w.rest with ⟨ending, done⟩ | ⟨w', waits, sound', -⟩
    · simp only [done, Progress.requests, Progress.acts, Progress.error?, List.append_nil]
      simpa only [List.append_assoc, List.cons_append, List.nil_append] using finished ending denied
    · simp only [waits, Progress.requests, Progress.acts, Progress.error?]
      simpa only [List.append_assoc, List.cons_append, List.nil_append, List.length_set] using
        denied.opened sound' s.now

theorem lived_advance {t : Traffic} (h : Lived g t.requests t.trace) (working : t.session.Working)
    (step : TrafficStep) : Lived g (g.advance t step).requests (g.advance t step).trace := by
  cases step with
  | chat key model messages temperature maxTokens =>
    exact lived_chat h working key model messages temperature maxTokens
  | clock now => exact h
  | admin step => exact h
  | drop n =>
    simp only [Gateway.advance]
    split
    · rename_i w since here
      have waiting := (h.sound _ (List.mem_of_getElem? here)).waiting
      exact h.told here .dropped [.dropped] (.of_unserved waiting rfl) rfl rfl
    · exact h
  | answer n reply latencyMs =>
    by_cases waits : ∃ w since, t.requests[n]? = some ⟨w, since, .waiting⟩
    · obtain ⟨w, since, here⟩ := waits
      rw [Gateway.advance_answer_of_waiting here]
      simp only [Traffic.follow, List.length_set]
      cases reply with
      | ok response => exact lived_served h working here response latencyMs
      | error e => exact lived_failed h working here e latencyMs
    · rw [Gateway.advance_answer_of_idle waits]
      exact h

/-- The trace of a run tells of each request its life. -/
theorem lived_traffic (working : s.Working) (steps : List TrafficStep) :
    Lived g (g.traffic s steps).requests (g.traffic s steps).trace := by
  induction steps using List.reverseRecOn with
  | nil => exact .nil
  | append_singleton steps step ih =>
    rw [Gateway.traffic_concat]
    exact lived_advance ih ((performs_traffic g working steps).working working) step

end Steps

end ChatGateway

import ChatGateway.Proofs.Quota.Denials
import ChatGateway.Proofs.Session.Fallback
import Mathlib.Data.List.Chain

/-!
# Rates know no model

A call that is denied falls back to its next candidate.  That helps against a budget only.  What
a call costs is a matter of the model it is put to, but it is one request whatever the model, and
is expected to consume the same tokens.  So when a key is denied for its rates, it is shut to the
call in that window: every later candidate that leads somewhere is denied for the same reason,
with the same figures, and no provider is asked any more.

Other operations may go on beside the call.  They take their turn before a candidate is looked
at, and while its provider is asked.  All that matters is that they leave the key alone once it
is shut.

## Main definitions

* `QuotaStore.Shut` — a key that is denied whatever a call costs.
* `Surroundings`, `Gateway.conduct` — a call beside other operations, candidate by candidate.
* `Leg.Untouched` — the counters of a key are left alone between two candidates.
* `Leg.Refused` — what becomes of a candidate when the key is shut.
-/

namespace ChatGateway

variable {α σ : Type}

/-! ## Keys that are shut -/

namespace KeyState

theorem dimension_of_refusal? {s : KeyState} {key : String} {spec : QuotaSpec} {call : QuotaUsage}
    {axis : Dimension} {d : Denial} (h : s.refusal? key spec call axis = some d) :
    d.dimension = axis := by
  obtain ⟨limit, -, h⟩ := Option.bind_eq_some_iff.1 h
  split at h
  · cases h
    rfl
  · cases h

/-- A call that is denied for its rates is denied at any cost. -/
theorem denial?_of_rate {s : KeyState} {key : String} {spec : QuotaSpec} {tokens cost : UInt64}
    {d : Denial} (h : s.denial? key spec tokens cost = some d) (rate : d.dimension ≠ .budget)
    (cost' : UInt64) : s.denial? key spec tokens cost' = some d := by
  rw [denial?_eq, Option.or_eq_some_iff, Option.or_eq_some_iff] at h ⊢
  rcases h with requests | ⟨requests, tokens | ⟨-, budget⟩⟩
  · exact .inl requests
  · exact .inr ⟨requests, .inl tokens⟩
  · exact absurd (dimension_of_refusal? budget) rate

end KeyState

namespace QuotaStore

/-- A key is shut to calls of so many tokens: it has entered the window, and whatever such a call
costs, it is denied there. -/
structure Shut (store : QuotaStore) (key : String) (spec : QuotaSpec) (window : Int)
    (tokens : UInt64) (d : Denial) : Prop where
  entered : store.keys.get? key = some (store.stateIn key window)
  denied : ∀ cost, (store.stateIn key window).denial? key spec tokens cost = some d

variable {store store' : QuotaStore} {key : String} {spec : QuotaSpec} {window : Int}
  {tokens cost : UInt64} {d : Denial}

/-- A denial that is not for the budget leaves the key shut. -/
theorem Shut.of_reserve (asked : store.reserve key spec window tokens cost = (.deny d, store'))
    (rate : d.dimension ≠ .budget) : store'.Shut key spec window tokens d := by
  cases h : (store.stateIn key window).denial? key spec tokens cost with
  | none =>
    rw [reserve_of_admitted h] at asked
    cases asked
  | some d' =>
    rw [reserve_of_denied h] at asked
    cases asked
    have again := store.stateIn_put_stateIn key (Int.le_refl window)
    refine ⟨?_, fun cost' => ?_⟩
    · rw [again, get?_put, if_pos rfl]
    · rw [again]
      exact KeyState.denial?_of_rate h rate cost'

/-- A key stays shut as long as it is left alone. -/
theorem Shut.congr (h : store.Shut key spec window tokens d)
    (same : store'.keys.get? key = store.keys.get? key) :
    store'.Shut key spec window tokens d := by
  have found := stateIn_congr same window
  refine ⟨?_, ?_⟩
  · rw [same, found]
    exact h.entered
  · rw [found]
    exact h.denied

/-- A key that is shut is denied, and the denial writes nothing. -/
theorem Shut.reserve (h : store.Shut key spec window tokens d) (cost : UInt64) :
    store.reserve key spec window tokens cost = (.deny d, store) := by
  rw [reserve_of_denied (h.denied cost)]
  congr 1
  have kept : (store.put key (store.stateIn key window)).keys = store.keys := by
    refine Dict.ext_get? fun k => ?_
    rw [get?_put]
    split
    · rename_i own
      rw [own, h.entered]
    · rfl
  cases store
  exact congrArg QuotaStore.mk kept

end QuotaStore

/-- A candidate is left for a denial exactly if it was denied. -/
theorem Verdict.failure?_eq_denied_iff {v : Verdict} {d : Denial} :
    v.failure? = some (.denied d) ↔ v = .denied d := by
  constructor
  · intro failed
    cases v with
    | unroutable fault => cases failed
    | denied d' =>
      cases failed
      rfl
    | asked request reply =>
      cases reply with
      | ok response => cases failed
      | error e =>
        simp only [failure?] at failed
        split at failed <;> cases failed
  · rintro rfl
    rfl

/-! ## A call beside other operations -/

/-- What goes on around a call: the turn of other operations, and the replies of providers. -/
structure Surroundings (σ : Type) where
  meanwhile : Session × σ → Session × σ
  ask : Providers σ

namespace Gateway

/-- The session once a provider has replied: an answer is billed. -/
def settled (g : Gateway α) (w : Waiting) (turn : Turn) (s : Session) : Session :=
  match turn.reply with
  | .ok response =>
    (s.record w.reservation (g.bill w response).1 (g.bill w response).2).emit
      (g.event w response turn.latencyMs s.now)
  | .error _ => s

/-- Try a candidate. -/
def attempt (g : Gateway α) (around : Surroundings σ) (call : Call) (candidate : String)
    (x : Session × σ) : Leg σ :=
  match g.reach call.config candidate with
  | .error fault => ⟨candidate, .unroutable fault, x, x⟩
  | .ok (route, secret) =>
    match g.askStore call route x.1.now x.1.store with
    | (.deny d, store) => ⟨candidate, .denied d, x, (x.1.asked store, x.2)⟩
    | (.allow r, store) =>
      -- The candidates before and after are no part of what is asked and billed.
      let w := g.waitingOn call {} candidate route secret r []
      let turned := around.ask x.2 x.1.now w.dispatch
      let y := around.meanwhile
        (((x.1.asked store).dispatch w.dispatch).atTime turned.1.now, turned.2)
      ⟨candidate, .asked w.dispatch turned.1.reply, x, (g.settled w turned.1 y.1, y.2)⟩

/-- Take a call to its end, one candidate after another.  The store is one in memory. -/
def conduct (g : Gateway α) (around : Surroundings σ) (call : Call) :
    Trail → List String → Session × σ →
      List (Leg σ) × Except GatewayError ChatResponse × Session × σ
  | trail, [], x => ([], .error (.exhausted trail.attempts trail.last), x)
  | trail, candidate :: rest, x =>
    let leg := g.attempt around call candidate (around.meanwhile x)
    let onward (failure : AttemptFailure) :=
      let told := g.conduct around call (trail.push candidate failure) rest leg.after
      (leg :: told.1, told.2)
    match leg.verdict with
    | .unroutable fault => onward (.unroutable fault)
    | .denied d => onward (.denied d)
    | .asked _ (.ok response) => ([leg], .ok response, leg.after)
    | .asked _ (.error e) =>
      if e.retryable then onward (.provider e)
      else ([leg], .error (.aborted candidate e trail.attempts), leg.after)

section Conduct

variable {g : Gateway α} {around : Surroundings σ} {call : Call} {trail : Trail}
  {candidate : String} {rest : List String} {x : Session × σ}

@[simp] theorem candidate_attempt :
    (g.attempt around call candidate x).candidate = candidate := by
  unfold attempt
  split
  · rfl
  · split <;> rfl

@[simp] theorem before_attempt : (g.attempt around call candidate x).before = x := by
  unfold attempt
  split
  · rfl
  · split <;> rfl

variable (trail rest) in
/-- After a candidate that is left, the call goes on with the next one. -/
theorem conduct_of_left {failure : AttemptFailure}
    (left : (g.attempt around call candidate (around.meanwhile x)).verdict.failure? =
      some failure) :
    let leg := g.attempt around call candidate (around.meanwhile x)
    let told := g.conduct around call (trail.push candidate failure) rest leg.after
    g.conduct around call trail (candidate :: rest) x = (leg :: told.1, told.2) := by
  intro leg told
  simp only [conduct]
  split
  next fault is =>
    rw [is] at left
    cases left
    rfl
  next d is =>
    rw [is] at left
    cases left
    rfl
  next response is =>
    rw [is] at left
    cases left
  next e is =>
    rw [is] at left
    simp only [Verdict.failure?] at left
    split at left
    next passes =>
      cases left
      rw [if_pos passes]
    next => cases left

variable (trail rest) in
/-- A candidate that is not left is the last. -/
theorem conduct_of_last
    (last : (g.attempt around call candidate (around.meanwhile x)).verdict.failure? = none) :
    let leg := g.attempt around call candidate (around.meanwhile x)
    ∃ outcome, g.conduct around call trail (candidate :: rest) x = ([leg], outcome, leg.after) := by
  intro leg
  simp only [conduct]
  split
  next fault is =>
    rw [is] at last
    cases last
  next d is =>
    rw [is] at last
    cases last
  next response is => exact ⟨_, rfl⟩
  next e is =>
    rw [is] at last
    simp only [Verdict.failure?] at last
    split at last
    next => cases last
    next fatal => exact ⟨_, by rw [if_neg fatal]⟩

/-- The cases of a call: no candidate is left over, or the next one is the last or is left. -/
@[elab_as_elim]
theorem conduct_induction (g : Gateway α) (around : Surroundings σ) (call : Call)
    {P : Trail → List String → Session × σ →
      List (Leg σ) × Except GatewayError ChatResponse × Session × σ → Prop}
    (exhausted : ∀ trail x, P trail [] x ([], .error (.exhausted trail.attempts trail.last), x))
    (last : ∀ trail candidate rest x leg outcome,
      leg = g.attempt around call candidate (around.meanwhile x) →
      leg.verdict.failure? = none → P trail (candidate :: rest) x ([leg], outcome, leg.after))
    (left : ∀ trail candidate rest x leg failure told,
      leg = g.attempt around call candidate (around.meanwhile x) →
      leg.verdict.failure? = some failure →
      P (trail.push candidate failure) rest leg.after told →
      P trail (candidate :: rest) x (leg :: told.1, told.2))
    (trail : Trail) (candidates : List String) (x : Session × σ) :
    P trail candidates x (g.conduct around call trail candidates x) := by
  induction candidates generalizing trail x with
  | nil => exact exhausted trail x
  | cons candidate rest ih =>
    cases failed : (g.attempt around call candidate (around.meanwhile x)).verdict.failure? with
    | none =>
      obtain ⟨outcome, is⟩ := conduct_of_last trail rest failed
      rw [is]
      exact last trail candidate rest x _ outcome rfl failed
    | some failure =>
      rw [conduct_of_left trail rest failed]
      exact left trail candidate rest x _ failure _ rfl failed (ih _ _)

variable (g around call) in
/-- The legs of a call were tried, and each begins after other operations have taken their turn.
All but the last were left for the next one. -/
theorem legs_conduct (trail : Trail) (candidates : List String) (x : Session × σ) :
    let legs := (g.conduct around call trail candidates x).1
    (∀ leg ∈ legs, leg = g.attempt around call leg.candidate leg.before) ∧
      (∀ first ∈ legs.head?, first.before = around.meanwhile x) ∧
      (legs.IsChain fun earlier later => later.before = around.meanwhile earlier.after) ∧
      ∀ leg ∈ legs.dropLast, leg.verdict.failure?.isSome := by
  induction trail, candidates, x using conduct_induction g around call with
  | exhausted trail x => simp
  | last trail candidate rest x leg outcome tried failed => simp [tried]
  | left trail candidate rest x leg failure told tried failed ih =>
    obtain ⟨others, first, chained, left⟩ := ih
    refine ⟨?_, by simp [tried], List.isChain_cons.2 ⟨first, chained⟩, ?_⟩
    · intro other mem
      rcases List.mem_cons.1 mem with rfl | mem
      · simp [tried]
      · exact others other mem
    · intro other mem
      cases legs : told.1 with
      | nil => simp [legs] at mem
      | cons next onward =>
        rw [legs] at mem left
        rcases List.mem_cons.1 mem with rfl | mem
        · rw [failed]
          rfl
        · exact left other mem

/-- A call whose candidates were all left has tried them all. -/
theorem exhausted_conduct (trail : Trail) (candidates : List String) (x : Session × σ)
    (last : trail.last = lastError? trail.attempts)
    (left : ∀ leg ∈ (g.conduct around call trail candidates x).1, leg.verdict.failure?.isSome) :
    (g.conduct around call trail candidates x).1.map (·.candidate) = candidates ∧
      ∃ attempts, Records attempts (g.conduct around call trail candidates x).1 ∧
        (g.conduct around call trail candidates x).2.1 =
          .error (.exhausted (trail.attempts ++ attempts)
            (lastError? (trail.attempts ++ attempts))) := by
  induction trail, candidates, x using conduct_induction g around call with
  | exhausted trail x => exact ⟨rfl, [], rfl, by simp [last]⟩
  | last trail candidate rest x leg outcome tried failed =>
    have := left leg (List.mem_singleton.2 rfl)
    rw [failed] at this
    cases this
  | left trail candidate rest x leg failure told tried failed ih =>
    have pushed : (trail.push candidate failure).last =
        lastError? (trail.push candidate failure).attempts := by
      simp only [Trail.push]
      rw [lastError?_push, last]
    obtain ⟨all, attempts, records, ends⟩ :=
      ih pushed fun other mem => left other (List.mem_cons_of_mem _ mem)
    have named : leg.candidate = candidate := by rw [tried, candidate_attempt]
    refine ⟨?_, ⟨candidate, failure⟩ :: attempts, ?_, ?_⟩
    · simp [all, named]
    · simp only [Records] at records
      simp [Records, failed, records, named]
    · simp only [Trail.push, List.append_assoc, List.singleton_append] at ends
      exact ends

variable (g around call) in
/-- A call ends where its last candidate leaves the session. -/
theorem after_conduct (trail : Trail) (candidates : List String) (x : Session × σ) :
    (g.conduct around call trail candidates x).2.2 =
      (g.conduct around call trail candidates x).1.getLast?.elim x (·.after) := by
  induction trail, candidates, x using conduct_induction g around call with
  | exhausted trail x => rfl
  | last trail candidate rest x leg outcome tried failed => rfl
  | left trail candidate rest x leg failure told tried failed ih =>
    simp only [ih, List.getLast?_cons]
    cases told.1.getLast? with
    | none => rfl
    | some last => rfl

/-! ## Alone -/

theorem attempt_of_unroutable {fault : RoutingFault}
    (reached : g.reach call.config candidate = .error fault) :
    g.attempt around call candidate x = ⟨candidate, .unroutable fault, x, x⟩ := by
  simp only [attempt, reached]

theorem attempt_of_denied {route : Route} {secret : String} {d : Denial} {store : QuotaStore}
    (reached : g.reach call.config candidate = .ok (route, secret))
    (denied : g.askStore call route x.1.now x.1.store = (.deny d, store)) :
    g.attempt around call candidate x =
      ⟨candidate, .denied d, x, (x.1.asked store, x.2)⟩ := by
  simp only [attempt, reached, denied]

theorem attempt_of_admitted {route : Route} {secret : String} {r : Reservation}
    {store : QuotaStore} {turn : Turn} {state' : σ}
    (reached : g.reach call.config candidate = .ok (route, secret))
    (admitted : g.askStore call route x.1.now x.1.store = (.allow r, store)) :
    let w := g.waitingOn call {} candidate route secret r []
    around.ask x.2 x.1.now w.dispatch = (turn, state') →
      let y := around.meanwhile
        (((x.1.asked store).dispatch w.dispatch).atTime turn.now, state')
      g.attempt around call candidate x =
        ⟨candidate, .asked w.dispatch turn.reply, x, (g.settled w turn y.1, y.2)⟩ := by
  intro w turned y
  simp only [attempt, reached, admitted]
  rw [turned]

/-- Where no other operation takes its turn, the call goes as if it were taken to its end at
once.  The induction is on the candidates, as in the walk. -/
theorem conduct_alone (alone : around.meanwhile = id) {s : Session} (working : s.Working)
    (trail : Trail) (candidates : List String) (state : σ) :
    (g.conduct around call trail candidates (s, state)).2 =
      g.converse around.ask (g.walk call trail s candidates).1
        (g.walk call trail s candidates).2 state := by
  induction candidates generalizing trail s state with
  | nil =>
    rw [walk_nil, converse_done]
    rfl
  | cons candidate rest ih =>
    have idle : around.meanwhile (s, state) = (s, state) := congrFun alone _
    cases reached : g.reach call.config candidate with
    | error fault =>
      have leg : g.attempt around call candidate (s, state) =
          ⟨candidate, .unroutable fault, (s, state), (s, state)⟩ := attempt_of_unroutable reached
      rw [walk_of_unroutable reached, ← ih working]
      simp only [conduct, idle, leg]
    | ok target =>
      obtain ⟨route, secret⟩ := target
      rcases asked : g.askStore call route s.now s.store with ⟨answer, store⟩
      cases answer with
      | deny d =>
        have leg : g.attempt around call candidate (s, state) =
            ⟨candidate, .denied d, (s, state), (s.asked store, state)⟩ :=
          attempt_of_denied reached asked
        rw [walk_of_denied working reached asked, ← ih (working.asked store)]
        simp only [conduct, idle, leg]
      | allow r =>
        rw [walk_of_admitted working reached asked]
        -- The walk waits with its trail and the candidates left over, the leg without; what is
        -- asked and billed is the same by computation.
        let w := g.waitingOn call trail candidate route secret r rest
        rcases turned : around.ask state s.now w.dispatch with ⟨turn, state'⟩
        have works : (((s.asked store).dispatch w.dispatch).atTime turn.now).Working := working
        change _ = g.converse around.ask (.waiting w) ((s.asked store).dispatch w.dispatch) state
        rw [g.converse_waiting (s := (s.asked store).dispatch w.dispatch) turned]
        have leg := attempt_of_admitted (x := (s, state)) reached asked turned
        rw [alone] at leg
        cases replied : turn.reply with
        | ok response =>
          rw [answer_of_ok works, converse_done]
          simp only [conduct, idle, leg, replied, settled]
          rfl
        | error e =>
          cases passes : e.retryable with
          | true =>
            rw [answer_of_retryable passes]
            refine Eq.trans ?_ (ih works (trail.push candidate (.provider e)) state')
            simp only [conduct, idle, leg, replied, settled, passes]
            rfl
          | false =>
            rw [answer_of_fatal passes, converse_done]
            simp only [conduct, idle, leg, replied, settled, passes]
            rfl

end Conduct

end Gateway

/-! ## After a denial for a rate -/

/-- The counters of a key are left alone between two candidates. -/
def Leg.Untouched (key : String) (earlier later : Leg σ) : Prop :=
  later.before.1.store.keys.get? key = earlier.after.1.store.keys.get? key

instance (key : String) (earlier later : Leg σ) : Decidable (earlier.Untouched key later) :=
  inferInstanceAs (Decidable (_ = _))

/-- A key is shut to the call, to whichever of its candidates. -/
def Call.ShutIn (call : Call) (store : QuotaStore) (window : Int) (d : Denial) : Prop :=
  store.Shut call.key (call.config.quotaFor call.key) window call.request.estimatedTokens d

/-- A candidate is refused for a reason that is given already.  If it leads somewhere, this is why
it is denied; no provider is asked, and nothing changes but that the store may be called. -/
structure Leg.Refused (g : Gateway α) (call : Call) (d : Denial) (leg : Leg σ) : Prop where
  denied : ∀ route secret, g.Leads call.config leg.candidate route secret → leg.verdict = .denied d
  unroutable : ∀ fault, g.LeadsNowhere call.config leg.candidate fault →
    leg.verdict = .unroutable fault
  left : leg.verdict.failure?.isSome
  unasked : leg.verdict.dispatch? = none
  providers_eq : leg.after.2 = leg.before.2
  session_eq : ∃ calls, leg.after.1 = { leg.before.1 with storeCalls := calls }

section Shut

variable {g : Gateway α} {around : Surroundings σ} {call : Call} {leg : Leg σ} {d : Denial}

/-- What is expected of a candidate is no matter of its route. -/
theorem Call.ShutIn.askStore {store : QuotaStore} {now : Instant}
    (shut : call.ShutIn store (windowOf now) d) (route : Route) :
    g.askStore call route now store = (.deny d, store) :=
  QuotaStore.Shut.reserve shut _

/-- Where a candidate is denied for a rate, the key is shut to the call from then on. -/
theorem shutIn_of_denied (tried : leg = g.attempt around call leg.candidate leg.before)
    (denied : leg.verdict = .denied d) (rate : d.dimension ≠ .budget) :
    call.ShutIn leg.after.1.store (windowOf leg.before.1.now) d := by
  cases reached : g.reach call.config leg.candidate with
  | error fault =>
    rw [tried, Gateway.attempt_of_unroutable reached] at denied
    cases denied
  | ok target =>
    obtain ⟨route, secret⟩ := target
    rcases asked : g.askStore call route leg.before.1.now leg.before.1.store with ⟨answer, store⟩
    cases answer with
    | deny d' =>
      have is : leg = ⟨leg.candidate, .denied d', leg.before,
          (leg.before.1.asked store, leg.before.2)⟩ :=
        tried.trans (Gateway.attempt_of_denied reached asked)
      rw [is] at denied
      cases denied
      rw [is]
      exact QuotaStore.Shut.of_reserve asked rate
    | allow r =>
      rw [tried, Gateway.attempt_of_admitted reached asked rfl] at denied
      cases denied

/-- Where the key is shut, a candidate is refused. -/
theorem refused_of_shutIn (tried : leg = g.attempt around call leg.candidate leg.before)
    (shut : call.ShutIn leg.before.1.store (windowOf leg.before.1.now) d) :
    leg.Refused g call d := by
  cases reached : g.reach call.config leg.candidate with
  | error fault =>
    rw [Gateway.attempt_of_unroutable reached] at tried
    refine ⟨fun route secret leads => ?_, fun fault' nowhere => ?_, ?_, ?_, ?_, ?_⟩
    · rw [← Gateway.reach_eq_ok_iff, reached] at leads
      cases leads
    · rw [← Gateway.reach_eq_error_iff, reached] at nowhere
      cases nowhere
      rw [tried]
    all_goals rw [tried]
    · rfl
    · rfl
    · exact ⟨_, rfl⟩
  | ok target =>
    obtain ⟨route, secret⟩ := target
    rw [Gateway.attempt_of_denied reached (shut.askStore route)] at tried
    refine ⟨fun _ _ _ => ?_, fun fault nowhere => ?_, ?_, ?_, ?_, ?_⟩
    · rw [tried]
    · rw [← Gateway.reach_eq_error_iff, reached] at nowhere
      cases nowhere
    all_goals rw [tried]
    · rfl
    · rfl
    · exact ⟨_, rfl⟩

/-- A candidate that is refused leaves the store as it was. -/
theorem Leg.Refused.store_eq (h : leg.Refused g call d) :
    leg.after.1.store = leg.before.1.store := by
  obtain ⟨calls, is⟩ := h.session_eq
  rw [is]

/-- A key that is shut stays so, from one candidate to the next: all of them are refused, and its
counters are what they were. -/
theorem refused_of_chain {window : Int} {later : List (Leg σ)}
    (tried : ∀ next ∈ later, next = g.attempt around call next.candidate next.before)
    (still : ∀ next ∈ later, windowOf next.before.1.now = window)
    (untouched : (leg :: later).IsChain (Leg.Untouched call.key))
    (shut : call.ShutIn leg.after.1.store window d) :
    ∀ next ∈ later, next.Refused g call d ∧
      next.after.1.store.keys.get? call.key = leg.after.1.store.keys.get? call.key := by
  induction later generalizing leg with
  | nil => simp
  | cons next later ih =>
    obtain ⟨same, untouched⟩ := List.isChain_cons_cons.1 untouched
    have found : call.ShutIn next.before.1.store window d := QuotaStore.Shut.congr shut same
    have refused : next.Refused g call d := by
      refine refused_of_shutIn (tried next List.mem_cons_self) ?_
      rwa [still next List.mem_cons_self]
    rw [← refused.store_eq] at found
    have kept : next.after.1.store.keys.get? call.key = leg.after.1.store.keys.get? call.key := by
      rw [refused.store_eq]
      exact same
    have rest := ih (fun leg mem => tried leg (List.mem_cons_of_mem _ mem))
      (fun leg mem => still leg (List.mem_cons_of_mem _ mem)) untouched found
    intro leg' mem
    rcases List.mem_cons.1 mem with rfl | mem
    · exact ⟨refused, kept⟩
    · exact ⟨(rest leg' mem).1, (rest leg' mem).2.trans kept⟩

/-- **A denial for a rate stands.**  A call goes beside any other operations; alone, this is the
call as it is taken to its end at once, and nobody touches its key.  Say that the clock stays in
one window and that nobody else touches the counters of the key between two candidates, and that
a candidate is denied a request or its tokens.  Then every later candidate that leads somewhere is
denied for that same reason, no provider is asked after the denial and no counter of the key
changes, all candidates are tried, and the caller is told that they are exhausted. -/
theorem rate_denial_stands (g : Gateway α) (around : Surroundings σ) (s : Session) (state : σ)
    (key model : String) (messages : List Message) (temperature : Option Binary)
    (maxTokens : Option UInt32) (call : Call) (working : s.Working)
    (opened : s.open? key model messages temperature maxTokens = .ok call) :
    let told := g.conduct around call {} call.candidates (s, state)
    (around.meanwhile = id →
      told.1.IsChain (Leg.Untouched call.key) ∧
        let begun := g.chat s key model messages temperature maxTokens
        told.2 = g.converse around.ask begun.1 begun.2 state) ∧
      ∀ window, (∀ leg ∈ told.1, windowOf leg.before.1.now = window) →
        told.1.IsChain (Leg.Untouched call.key) →
        ∀ earlier leg later d, told.1 = earlier ++ leg :: later → leg.verdict = .denied d →
          d.dimension ≠ .budget →
          (∀ next ∈ later, next.Refused g call d ∧
            next.after.1.store.keys.get? call.key = leg.after.1.store.keys.get? call.key) ∧
          told.2.2.1.store.keys.get? call.key = leg.after.1.store.keys.get? call.key ∧
          told.1.map (·.candidate) = call.candidates ∧
          ∃ attempts, Records attempts told.1 ∧
            told.2.1 = .error (.exhausted attempts (lastError? attempts)) := by
  intro told
  obtain ⟨tried, -, chained, passed⟩ := g.legs_conduct around call {} call.candidates (s, state)
  refine ⟨fun alone => ⟨?_, ?_⟩, ?_⟩
  · refine chained.imp fun earlier later follows => ?_
    rw [Leg.Untouched, follows, alone]
    rfl
  · have begun := g.chat_eq s key model messages temperature maxTokens
    rw [opened] at begun
    simp only [begun]
    exact Gateway.conduct_alone alone working {} call.candidates state
  · intro window still untouched earlier leg later d split denied rate
    change ∀ leg ∈ told.1, _ at tried
    change ∀ leg ∈ told.1.dropLast, _ at passed
    rw [split] at tried still untouched passed
    rw [List.dropLast_append_cons] at passed
    have mem : leg ∈ earlier ++ leg :: later := by simp
    have shut := shutIn_of_denied (tried leg mem) denied rate
    rw [still leg mem] at shut
    have refused := refused_of_chain
      (fun next mem => tried next (by simp [mem])) (fun next mem => still next (by simp [mem]))
      (List.isChain_append.1 untouched).2.1 shut
    refine ⟨refused, ?_, ?_⟩
    · have ends : told.2.2 = told.1.getLast?.elim (s, state) (·.after) :=
        g.after_conduct around call {} call.candidates (s, state)
      rw [ends, split]
      rcases List.eq_nil_or_concat' later with rfl | ⟨between, last, rfl⟩
      · simp
      · rw [← List.cons_append, ← List.append_assoc, List.getLast?_concat]
        exact (refused last (by simp)).2
    · have left : ∀ leg' ∈ earlier ++ leg :: later, leg'.verdict.failure?.isSome := by
        intro leg' mem
        rcases List.mem_append.1 mem with mem | mem
        · exact passed leg' (List.mem_append_left _ mem)
        rcases List.mem_cons.1 mem with rfl | mem
        · rw [denied]
          rfl
        · exact (refused leg' mem).1.left
      rw [← split] at left
      simpa using Gateway.exhausted_conduct {} call.candidates (s, state) rfl left

/-- A gateway whose one provider serves three of four candidates, seven tokens a minute. -/
def rationedGateway : Gateway Unit where
  config := {
    apiKeys := .ofList [("p", "secret")]
    routingRules := [⟨"four", 0, ["p/a", "p/b", "ghost", "p/c"]⟩]
    quotas := .ofList [("k", { tokensPerMinute := some 7 })] }
  registry := ⟨[⟨"p", fun _ => false, ()⟩]⟩
  pricing := .flatRate 9000 (.ofList [("b", 1000)])

/-- A session of it that is ready. -/
def rationedSession : Session := { phase := .ready rationedGateway.config }

/-- Another key is admitted whenever others take their turn, and the provider is always busy. -/
def amongOthers : Surroundings Nat where
  meanwhile x := ({ x.1 with store := (x.1.store.reserve "other" .unlimited 0 5 1).2 }, x.2)
  ask := busyProviders

/-- A call of four tokens. -/
def rationedCall : Call :=
  ⟨"k", "p/a", "p/a", rationedGateway.config, ⟨"", [], none, some 4⟩⟩

/-- What becomes of it. -/
def rationedResult : List (Leg Nat) × Except GatewayError ChatResponse × Session × Nat :=
  rationedGateway.conduct amongOthers rationedCall {} rationedCall.candidates (rationedSession, 0)

theorem rate_denial_stands_rationed :
    rationedSession.Working ∧
      rationedSession.open? "k" "p/a" [] none (some 4) = .ok rationedCall ∧
      (∀ leg ∈ rationedResult.1, windowOf leg.before.1.now = 0) ∧
      rationedResult.1.IsChain (Leg.Untouched "k") ∧ rationedResult.2.2.2 = 1 ∧
      ∃ earlier leg later d, rationedResult.1 = earlier ++ leg :: later ∧ later.length = 2 ∧
        leg.verdict = .denied d ∧ d = ⟨"k", .tokens, 7, 4, 4⟩ ∧
        (∀ next ∈ later, next.Refused rationedGateway rationedCall d) ∧
        rationedResult.1.map (·.candidate) = ["p/a", "p/b", "ghost", "p/c"] ∧
        ∃ attempts, Records attempts rationedResult.1 ∧
          rationedResult.2.1 = .error (.exhausted attempts (lastError? attempts)) := by
  have working : rationedSession.Working := fun _ => rfl
  have opened : rationedSession.open? "k" "p/a" [] none (some 4) = .ok rationedCall := rfl
  have still : ∀ leg ∈ rationedResult.1, windowOf leg.before.1.now = 0 := by decide +kernel
  have untouched : rationedResult.1.IsChain (Leg.Untouched "k") := by decide +kernel
  have length : rationedResult.1.length = 4 := by decide +kernel
  have candidates : rationedCall.candidates = ["p/a", "p/b", "ghost", "p/c"] := by decide +kernel
  have second : rationedResult.1[1]?.bind (·.verdict.failure?) =
      some (.denied ⟨"k", .tokens, 7, 4, 4⟩) := by decide +kernel
  obtain ⟨leg, found, failed⟩ := Option.bind_eq_some_iff.1 second
  have denied := Verdict.failure?_eq_denied_iff.1 failed
  obtain ⟨bound, rfl⟩ := List.getElem?_eq_some_iff.1 found
  have split : rationedResult.1 =
      rationedResult.1.take 1 ++ rationedResult.1[1] :: rationedResult.1.drop 2 := by
    rw [← List.drop_eq_getElem_cons bound, List.take_append_drop]
  obtain ⟨-, stands⟩ := rate_denial_stands rationedGateway amongOthers rationedSession 0 "k" "p/a"
    [] none (some 4) rationedCall working opened
  obtain ⟨refused, -, all, exhausted⟩ :=
    stands 0 still untouched _ _ _ _ split denied (by decide)
  rw [candidates] at all
  exact ⟨working, opened, still, untouched, by decide +kernel, _, _, _, _, split,
    by simp [length], denied, rfl, fun next mem => (refused next mem).1, all, exhausted⟩

end Shut

end ChatGateway

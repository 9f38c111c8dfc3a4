import ChatGateway.Session.Call

/-!
# Candidates and where they lead

The candidates of a model are never empty and begin with the model itself: a rule is
selected by its first model, and without a rule the model is its own candidate.

A candidate leads to a provider when it has a route and the provider of the route has a
secret.  That the provider is registered need not be asked, for a route never leads to one
that is not.

## Main definitions

* `head?_selectCandidates` — the first candidate of a model.
* `registered_of_route` — a route leads to a registered provider.
* `Gateway.Leads`, `Gateway.LeadsNowhere` — where a candidate leads.
-/

namespace ChatGateway

/-! ## The first candidate -/

/-- Of two rules the preferred one is one of the two. -/
theorem preferred_eq (earlier : Option RoutingRule) (later : RoutingRule) :
    earlier = some (preferred earlier later) ∨ preferred earlier later = later := by
  cases earlier with
  | none => exact .inr rfl
  | some r =>
    unfold preferred
    by_cases h : later.priority ≤ r.priority
    · exact .inl (by simp only [if_pos h])
    · exact .inr (by simp only [if_neg h])

/-- What the first rule and every other rule have, the preferred of all has. -/
theorem foldl_preferred {P : RoutingRule → Prop} {rules : List RoutingRule}
    {best : Option RoutingRule} (first : ∀ r, best = some r → P r) (all : ∀ r ∈ rules, P r)
    {r : RoutingRule} (h : rules.foldl (fun best r => some (preferred best r)) best = some r) :
    P r := by
  induction rules generalizing best with
  | nil => exact first r h
  | cons rule rules ih =>
    have next : ∀ r, some (preferred best rule) = some r → P r := by
      intro r' eq
      cases eq
      rcases preferred_eq best rule with old | new
      · exact first _ old
      · rw [new]
        exact all rule List.mem_cons_self
    exact ih next (fun r mem => all r (List.mem_cons_of_mem _ mem)) h

/-- The rule of a model is one of the rules, and begins with the model. -/
theorem of_bestRule? {rules : List RoutingRule} {model : String} {r : RoutingRule}
    (h : bestRule? rules model = some r) : r ∈ rules ∧ r.primary? = some model := by
  refine foldl_preferred (P := fun r => r ∈ rules ∧ r.primary? = some model) ?_ ?_ h
  · intro r none
    cases none
  · intro r mem
    simpa using mem

/-- The first candidate of a model is the model. -/
theorem head?_selectCandidates (rules : List RoutingRule) (model : String) :
    (selectCandidates rules model).head? = some model := by
  unfold selectCandidates
  cases h : bestRule? rules model with
  | none => rfl
  | some r => exact (of_bestRule? h).2

/-! ## Routes -/

section Routes

variable {α : Type} {registry : Registry α}

theorem Registry.get?_of_mem {p : Provider α} (h : p ∈ registry.providers) :
    ∃ q, registry.get? p.name = some q := by
  rw [← Option.isSome_iff_exists, get?, List.find?_isSome]
  exact ⟨p, h, by simp⟩

theorem Registry.get?_of_contains {name : String} (h : registry.contains name = true) :
    ∃ q, registry.get? name = some q := by
  obtain ⟨p, mem, own⟩ := List.any_eq_true.1 h
  simp only [decide_eq_true_eq] at own
  rw [← own]
  exact get?_of_mem mem

/-- A route leads to a registered provider. -/
theorem registered_of_route {defaultProvider : Option String} {candidate : String} {route : Route}
    (h : Route.of? registry defaultProvider candidate = some route) :
    ∃ p, registry.get? route.provider = some p := by
  simp only [Route.of?, Option.orElse_eq_orElse, Option.orElse_eq_or, Option.or_eq_some_iff] at h
  rcases h with named | ⟨-, claimed | ⟨-, fallback⟩⟩
  · unfold Route.explicit? at named
    split at named
    · cases named
    · split at named
      · rename_i known
        cases named
        exact Registry.get?_of_contains known.1
      · cases named
  · simp only [Route.claimed?, Registry.claimant?, Option.map_eq_some_iff] at claimed
    obtain ⟨_, ⟨p, found, rfl⟩, rfl⟩ := claimed
    exact Registry.get?_of_mem (List.mem_of_find?_eq_some found)
  · simp only [Route.default?, Option.map_eq_some_iff, Option.filter_eq_some_iff] at fallback
    obtain ⟨_, ⟨-, known⟩, rfl⟩ := fallback
    exact Registry.get?_of_contains known

/-! ## Where a candidate leads -/

namespace Gateway

/-- A candidate leads to a route and a secret: it has the route, and the provider of the
route has the secret. -/
def Leads (g : Gateway α) (config : Config) (candidate : String) (route : Route)
    (secret : String) : Prop :=
  Route.of? g.registry config.defaultProvider candidate = some route ∧
    config.apiKeyFor? g.env route.provider = some secret

/-- A candidate leads nowhere: it has no route, or the provider of its route has no secret.
The fault says which. -/
def LeadsNowhere (g : Gateway α) (config : Config) (candidate : String) (fault : RoutingFault) :
    Prop :=
  (Route.of? g.registry config.defaultProvider candidate = none ∧
      fault = .unknownProvider candidate) ∨
    ∃ route, Route.of? g.registry config.defaultProvider candidate = some route ∧
      config.apiKeyFor? g.env route.provider = none ∧ fault = .missingKey route.provider

variable {g : Gateway α} {config : Config} {candidate : String}

theorem reach_eq_ok_iff {route : Route} {secret : String} :
    g.reach config candidate = .ok (route, secret) ↔ g.Leads config candidate route secret := by
  unfold reach Leads
  cases found : Route.of? g.registry config.defaultProvider candidate with
  | none => simp
  | some route' =>
    obtain ⟨p, registered⟩ := registered_of_route found
    simp only [registered]
    cases key : config.apiKeyFor? g.env route'.provider with
    | none =>
      simp only [Option.some.injEq]
      constructor
      · intro h
        cases h
      · rintro ⟨rfl, h⟩
        rw [key] at h
        cases h
    | some secret' =>
      simp only [Except.ok.injEq, Prod.mk.injEq, Option.some.injEq]
      constructor
      · rintro ⟨rfl, rfl⟩
        exact ⟨rfl, key⟩
      · rintro ⟨rfl, h⟩
        rw [key] at h
        exact ⟨rfl, Option.some.inj h⟩

theorem reach_eq_error_iff {fault : RoutingFault} :
    g.reach config candidate = .error fault ↔ g.LeadsNowhere config candidate fault := by
  unfold reach LeadsNowhere
  cases found : Route.of? g.registry config.defaultProvider candidate with
  | none => simp [eq_comm]
  | some route =>
    obtain ⟨p, registered⟩ := registered_of_route found
    simp only [registered]
    cases key : config.apiKeyFor? g.env route.provider with
    | none => simp [key, eq_comm]
    | some secret => simp [key]

end Gateway

end Routes

end ChatGateway

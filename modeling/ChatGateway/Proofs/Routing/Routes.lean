import ChatGateway.Proofs.Routing.Candidates
import ChatGateway.Proofs.Routing.Registries
import Mathlib.Data.List.TakeWhile

/-!
# Where a route comes from

A route comes from one of three sources, each of which counts only where those before it give
none: the candidate names the route, a provider claims the candidate, or there is a default
provider.  Whatever its source, it leads to a registered provider.

The text of a route names it.  So as long as no registered name has a slash, a route is found
again from its text, whatever else is claimed and whatever the default is.

## Main definitions

* `Route.NamedBy`, `Route.ClaimedBy`, `Route.DefaultFor` — the three sources.
* `Route.Found` — a route from the first source that gives one.
* `splitSlash?_eq_some_iff` — the parts before and after the first slash.
* `routes_by_source` — the routes of candidates.
-/

namespace ChatGateway

namespace Route

/-! ## The first slash -/

theorem ne_slash_of_notMem {cs : List Char} (unslashed : '/' ∉ cs) :
    ∀ c ∈ cs, decide (c ≠ '/') = true := by
  intro c mem
  rw [decide_eq_true_eq]
  rintro rfl
  exact unslashed mem

/-- A text with a slash is split there, if no slash stands before. -/
theorem splitSlash?_of_toList {s : String} {front back : List Char}
    (chars : s.toList = front ++ '/' :: back) (unslashed : '/' ∉ front) :
    splitSlash? s = some (String.ofList front, String.ofList back) := by
  have others := ne_slash_of_notMem unslashed
  rw [splitSlash?, chars, List.dropWhile_append_of_pos others, List.takeWhile_append_of_pos others]
  simp

theorem splitSlash?_of_notMem {s : String} (unslashed : '/' ∉ s.toList) :
    splitSlash? s = none := by
  rw [splitSlash?, List.dropWhile_eq_nil_iff.2 (ne_slash_of_notMem unslashed)]

/-- The parts of a text before and after its first slash. -/
theorem splitSlash?_eq_some_iff {s front back : String} :
    splitSlash? s = some (front, back) ↔ s = front ++ "/" ++ back ∧ '/' ∉ front.toList := by
  constructor
  · intro parts
    by_cases slash : '/' ∈ s.toList
    · obtain ⟨before, after, chars, unslashed⟩ := List.eq_append_cons_of_mem slash
      rw [splitSlash?_of_toList chars unslashed] at parts
      cases parts
      refine ⟨?_, by rwa [String.toList_ofList]⟩
      apply String.toList_inj.1
      simpa using chars
    · rw [splitSlash?_of_notMem slash] at parts
      cases parts
  · rintro ⟨rfl, unslashed⟩
    have chars : (front ++ "/" ++ back).toList = front.toList ++ '/' :: back.toList := by simp
    rw [splitSlash?_of_toList chars unslashed, String.ofList_toList, String.ofList_toList]

/-! ## The three sources -/

variable {α : Type} (registry : Registry α) (candidate : String)

/-- A candidate names a route: a registered provider before its first slash, and a model
after it. -/
def NamedBy (route : Route) : Prop :=
  candidate = route.text ∧ '/' ∉ route.provider.toList ∧ route.provider ∈ registry.names ∧
    route.model ≠ ""

/-- A provider claims a candidate, and none before it does. -/
def ClaimedBy (route : Route) : Prop :=
  route.model = candidate ∧
    ∃ before p after, registry.providers = before ++ p :: after ∧ p.name = route.provider ∧
      p.claims candidate = true ∧ ∀ q ∈ before, q.claims candidate = false

/-- The default provider is registered. -/
def DefaultFor (defaultProvider : Option String) (route : Route) : Prop :=
  route.model = candidate ∧ defaultProvider = some route.provider ∧
    route.provider ∈ registry.names

/-- A route from the first source that gives one. -/
inductive Found (defaultProvider : Option String) (route : Route) : Prop
  | named (h : NamedBy registry candidate route)
  | claimed (unnamed : ∀ r, ¬ NamedBy registry candidate r)
    (h : ClaimedBy registry candidate route)
  | fallback (unnamed : ∀ r, ¬ NamedBy registry candidate r)
    (unclaimed : ∀ p ∈ registry.providers, p.claims candidate = false)
    (h : DefaultFor registry candidate defaultProvider route)

variable {registry candidate} {defaultProvider : Option String} {route : Route}

theorem explicit?_eq_some_iff :
    explicit? registry candidate = some route ↔ NamedBy registry candidate route := by
  unfold explicit? NamedBy
  constructor
  · intro found
    split at found
    · cases found
    · rename_i provider model parts
      split at found
      · rename_i known
        cases found
        obtain ⟨text, unslashed⟩ := splitSlash?_eq_some_iff.1 parts
        exact ⟨text, unslashed, Registry.contains_iff.1 known.1, known.2⟩
      · cases found
  · rintro ⟨text, unslashed, known, asked⟩
    have parts : splitSlash? candidate = some (route.provider, route.model) :=
      splitSlash?_eq_some_iff.2 ⟨text, unslashed⟩
    simp only [parts, Registry.contains_iff, if_pos (And.intro known asked)]

theorem explicit?_eq_none_iff :
    explicit? registry candidate = none ↔ ∀ r, ¬ NamedBy registry candidate r := by
  rw [Option.eq_none_iff_forall_ne_some]
  exact forall_congr' fun r => not_congr explicit?_eq_some_iff

theorem claimed?_eq_some_iff :
    claimed? registry candidate = some route ↔ ClaimedBy registry candidate route := by
  simp only [claimed?, Registry.claimant?, Option.map_eq_some_iff, List.find?_eq_some_iff_append,
    Bool.not_eq_true']
  constructor
  · rintro ⟨_, ⟨p, ⟨claims, before, after, providers, others⟩, rfl⟩, rfl⟩
    exact ⟨rfl, before, p, after, providers, rfl, claims, others⟩
  · rintro ⟨asked, before, p, after, providers, name, claims, others⟩
    refine ⟨_, ⟨p, ⟨claims, before, after, providers, others⟩, rfl⟩, ?_⟩
    rw [name, ← asked]

theorem claimed?_eq_none_iff :
    claimed? registry candidate = none ↔ ∀ p ∈ registry.providers, p.claims candidate = false := by
  simp only [claimed?, Registry.claimant?, Option.map_eq_none_iff, List.find?_eq_none,
    Bool.not_eq_true]

theorem default?_eq_some_iff :
    default? registry defaultProvider candidate = some route ↔
      DefaultFor registry candidate defaultProvider route := by
  simp only [default?, Option.map_eq_some_iff, Option.filter_eq_some_iff, Registry.contains_iff]
  constructor
  · rintro ⟨name, ⟨chosen, known⟩, rfl⟩
    exact ⟨rfl, chosen, known⟩
  · rintro ⟨asked, chosen, known⟩
    refine ⟨route.provider, ⟨chosen, known⟩, ?_⟩
    rw [← asked]

theorem default?_eq_none_iff :
    default? registry defaultProvider candidate = none ↔
      ∀ name, defaultProvider = some name → name ∉ registry.names := by
  simp only [default?, Option.map_eq_none_iff, Option.filter_eq_none_iff, Registry.contains_iff]

/-- A route is found at the first source that gives one. -/
theorem of?_eq_some_iff :
    of? registry defaultProvider candidate = some route ↔
      Found registry candidate defaultProvider route := by
  simp only [of?, Option.orElse_eq_orElse, Option.orElse_eq_or, Option.or_eq_some_iff,
    explicit?_eq_some_iff, explicit?_eq_none_iff, claimed?_eq_some_iff, claimed?_eq_none_iff,
    default?_eq_some_iff]
  constructor
  · rintro (named | ⟨unnamed, claimed | ⟨unclaimed, fallback⟩⟩)
    · exact .named named
    · exact .claimed unnamed claimed
    · exact .fallback unnamed unclaimed fallback
  · rintro (named | ⟨unnamed, claimed⟩ | ⟨unnamed, unclaimed, fallback⟩)
    · exact .inl named
    · exact .inr ⟨unnamed, .inl claimed⟩
    · exact .inr ⟨unnamed, .inr ⟨unclaimed, fallback⟩⟩

theorem of?_eq_none_iff :
    of? registry defaultProvider candidate = none ↔
      (∀ r, ¬ NamedBy registry candidate r) ∧
      (∀ p ∈ registry.providers, p.claims candidate = false) ∧
      ∀ name, defaultProvider = some name → name ∉ registry.names := by
  simp only [of?, Option.orElse_eq_orElse, Option.orElse_eq_or, Option.or_eq_none_iff,
    explicit?_eq_none_iff, claimed?_eq_none_iff, default?_eq_none_iff]

/-! ## Routes and their texts -/

theorem Found.registered (h : Found registry candidate defaultProvider route) :
    route.provider ∈ registry.names := by
  cases h with
  | named h => exact h.2.2.1
  | claimed unnamed h =>
    obtain ⟨-, before, p, after, providers, name, -⟩ := h
    rw [Registry.names, providers, ← name]
    apply List.mem_map_of_mem
    exact List.mem_append_right _ List.mem_cons_self
  | fallback unnamed unclaimed h => exact h.2.2

/-- A route asks for some model, if the candidate is not empty. -/
theorem Found.model_ne (h : Found registry candidate defaultProvider route)
    (some_candidate : candidate ≠ "") : route.model ≠ "" := by
  cases h with
  | named h => exact h.2.2.2
  | claimed unnamed h =>
    rw [h.1]
    exact some_candidate
  | fallback unnamed unclaimed h =>
    rw [h.1]
    exact some_candidate

/-- The text of a route names it. -/
theorem Found.namedBy_text (h : Found registry candidate defaultProvider route)
    (unslashed : ∀ name ∈ registry.names, '/' ∉ name.toList) (some_candidate : candidate ≠ "") :
    NamedBy registry route.text route :=
  ⟨rfl, unslashed _ h.registered, h.registered, h.model_ne some_candidate⟩

end Route

/-- **Routes by source.**  A route comes from the first of three sources that gives one, and
there is none exactly if no source gives one.  It leads to a registered provider, so a routed
candidate leads nowhere exactly if that provider has no secret.  If no registered name has a
slash, a route of some candidate is found again from its text, under any default. -/
theorem routes_by_source {α : Type} (registry : Registry α) (defaultProvider : Option String)
    (candidate : String) :
    (∀ route, Route.of? registry defaultProvider candidate = some route ↔
      Route.Found registry candidate defaultProvider route) ∧
    (Route.of? registry defaultProvider candidate = none ↔
      (∀ route, ¬ Route.NamedBy registry candidate route) ∧
      (∀ p ∈ registry.providers, p.claims candidate = false) ∧
      ∀ name, defaultProvider = some name → name ∉ registry.names) ∧
    ∀ route, Route.of? registry defaultProvider candidate = some route →
      (∃ p, registry.get? route.provider = some p) ∧
      (∀ (g : Gateway α) (config : Config) (fault : RoutingFault), g.registry = registry →
        config.defaultProvider = defaultProvider →
        (g.reach config candidate = .error fault ↔
          config.apiKeyFor? g.env route.provider = none ∧ fault = .missingKey route.provider)) ∧
      ((∀ name ∈ registry.names, '/' ∉ name.toList) → candidate ≠ "" →
        ∀ otherDefault, Route.of? registry otherDefault route.text = some route) := by
  refine ⟨fun route => Route.of?_eq_some_iff, Route.of?_eq_none_iff, ?_⟩
  intro route found
  refine ⟨registered_of_route found, ?_, ?_⟩
  · rintro g config fault rfl rfl
    rw [Gateway.reach_eq_error_iff, Gateway.LeadsNowhere, found]
    simp
  · intro unslashed some_candidate otherDefault
    apply Route.of?_eq_some_iff.2
    exact .named ((Route.of?_eq_some_iff.1 found).namedBy_text unslashed some_candidate)

/-- A gateway of two providers, one of which claims what begins with the name of the other.
Neither has a secret. -/
def slashedGateway : Gateway Unit where
  config := { defaultProvider := some "a" }
  registry := ⟨[⟨"a", fun _ => false, ()⟩, ⟨"b", claimsStarting ["a/"], ()⟩]⟩

/-- Nothing follows the slash, so the candidate is claimed as a whole; its route is found again
where two slashes stand. -/
theorem routes_by_source_slashed :
    Route.of? slashedGateway.registry (some "a") "a/" = some ⟨"b", "a/"⟩ ∧
    slashedGateway.reach slashedGateway.config "a/" = .error (.missingKey "b") ∧
    (∀ name ∈ slashedGateway.registry.names, '/' ∉ name.toList) ∧ "a/" ≠ "" ∧
    ∀ otherDefault, Route.of? slashedGateway.registry otherDefault "b/a/" = some ⟨"b", "a/"⟩ := by
  have found : Route.of? slashedGateway.registry (some "a") "a/" = some ⟨"b", "a/"⟩ := by
    decide +kernel
  have unslashed : ∀ name ∈ slashedGateway.registry.names, '/' ∉ name.toList := by
    decide +kernel
  obtain ⟨-, -, routed⟩ := routes_by_source slashedGateway.registry (some "a") "a/"
  obtain ⟨-, leads, again⟩ := routed ⟨"b", "a/"⟩ found
  have keyless : slashedGateway.config.apiKeyFor? slashedGateway.env "b" = none := by
    decide +kernel
  refine ⟨found, ?_, unslashed, by decide, again unslashed (by decide)⟩
  exact (leads slashedGateway slashedGateway.config _ rfl rfl).2 ⟨keyless, rfl⟩

end ChatGateway

import ChatGateway.Routing.Registry
import Mathlib.Data.Finset.Card
import Mathlib.Data.List.Find
import Mathlib.Data.List.Induction

/-!
# Registries in the order of registration

Registering a name again leaves the new provider in the old place.  So what stands where is
said by the first registration of each name, and who stands there by the last.  No name stands
in two places, and that is why looking for a name and looking through all providers agree.

## Main definitions

* `lastRegistered` — the provider that was registered last under a name.
* `Registry.Orderly` — a registry as a row of registrations leaves it.
* `Registry.Orderly.register` — what one registration keeps.
* `registry_orderly` — what holds after any registrations.
-/

namespace ChatGateway

variable {α : Type}

/-- The provider that was registered last under a name. -/
def lastRegistered (ps : List (Provider α)) (name : String) : Option (Provider α) :=
  (ps.filter fun p => p.name = name).getLast?

theorem lastRegistered_concat (ps : List (Provider α)) (p : Provider α) (name : String) :
    lastRegistered (ps ++ [p]) name = if name = p.name then some p else lastRegistered ps name := by
  by_cases own : name = p.name
  · subst own
    simp [lastRegistered]
  · have other : ¬ p.name = name := fun h => own h.symm
    simp [lastRegistered, own, other]

namespace Registry

/-! ## One registration -/

theorem map_name_place (p : Provider α) (ps : List (Provider α)) :
    (place p ps).map (·.name) =
      if p.name ∈ ps.map (·.name) then ps.map (·.name) else ps.map (·.name) ++ [p.name] := by
  induction ps with
  | nil => rfl
  | cons q ps ih =>
    by_cases own : q.name = p.name
    · simp [place, own]
    · have other : ¬ p.name = q.name := fun h => own h.symm
      simp only [place, own, if_false, List.map_cons, ih, List.mem_cons, other, false_or]
      by_cases known : p.name ∈ ps.map (·.name)
      · rw [if_pos known, if_pos known]
      · rw [if_neg known, if_neg known, List.cons_append]

theorem find?_place (p : Provider α) (ps : List (Provider α)) (name : String) :
    (place p ps).find? (fun q => q.name = name) =
      if name = p.name then some p else ps.find? fun q => q.name = name := by
  induction ps with
  | nil =>
    by_cases own : name = p.name
    · simp [place, own]
    · simp [place, own, Ne.symm own]
  | cons q ps ih =>
    by_cases placed : q.name = p.name
    · by_cases own : name = p.name
      · simp [place, placed, own]
      · simp [place, placed, own, Ne.symm own]
    · by_cases here : q.name = name
      · have other : ¬ name = p.name := fun h => placed (here.trans h)
        simp [place, here, other]
      · simp [place, placed, here, ih]

theorem names_register (r : Registry α) (p : Provider α) :
    (r.register p).names = if p.name ∈ r.names then r.names else r.names ++ [p.name] :=
  map_name_place p r.providers

theorem get?_register (r : Registry α) (p : Provider α) (name : String) :
    (r.register p).get? name = if name = p.name then some p else r.get? name :=
  find?_place p r.providers name

theorem ofList_concat (ps : List (Provider α)) (p : Provider α) :
    ofList (ps ++ [p]) = (ofList ps).register p := by
  rw [ofList, List.foldl_append]
  rfl

/-! ## Any registrations -/

/-- A registry as a row of registrations leaves it: the names in the order in which each was
first registered, and under each name the provider that was registered last. -/
structure Orderly (ps : List (Provider α)) (r : Registry α) : Prop where
  mem_names : ∀ name, name ∈ r.names ↔ ∃ p ∈ ps, p.name = name
  ascending : r.names.Pairwise fun a b =>
    (ps.map (·.name)).idxOf a < (ps.map (·.name)).idxOf b
  get?_eq : ∀ name, r.get? name = lastRegistered ps name

variable {ps : List (Provider α)} {r : Registry α}

theorem orderly_empty : Orderly [] ({} : Registry α) :=
  ⟨fun name => by simp [names], .nil, fun name => rfl⟩

/-- A further registration adds a new name at the end, and an old one nowhere. -/
theorem Orderly.register (h : Orderly ps r) (p : Provider α) :
    Orderly (ps ++ [p]) (r.register p) := by
  have listed : ∀ name, name ∈ r.names → name ∈ ps.map (·.name) := by
    intro name mem
    rw [h.mem_names] at mem
    simpa using mem
  have kept : r.names.Pairwise fun a b =>
      ((ps ++ [p]).map (·.name)).idxOf a < ((ps ++ [p]).map (·.name)).idxOf b := by
    refine h.ascending.imp_of_mem ?_
    intro a b mem_a mem_b first
    rw [List.map_append, List.idxOf_append_of_mem (listed a mem_a),
      List.idxOf_append_of_mem (listed b mem_b)]
    exact first
  constructor
  · intro name
    rw [names_register]
    by_cases known : p.name ∈ r.names
    · rw [if_pos known, h.mem_names]
      simp only [List.mem_append, List.mem_singleton]
      constructor
      · rintro ⟨q, mem, own⟩
        exact ⟨q, .inl mem, own⟩
      · rintro ⟨q, mem | rfl, own⟩
        · exact ⟨q, mem, own⟩
        · rw [← own]
          exact (h.mem_names _).1 known
    · rw [if_neg known, List.mem_append, h.mem_names]
      simp only [List.mem_append, List.mem_singleton, or_and_right, exists_or, exists_eq_left,
        eq_comm (a := name)]
  · rw [names_register]
    by_cases known : p.name ∈ r.names
    · rw [if_pos known]
      exact kept
    · rw [if_neg known, List.pairwise_append]
      refine ⟨kept, List.pairwise_singleton _ _, ?_⟩
      intro a mem_a b mem_b
      obtain rfl := List.mem_singleton.1 mem_b
      have unlisted : p.name ∉ ps.map (·.name) := by
        intro mem
        apply known
        rw [h.mem_names]
        simpa using mem
      rw [List.map_append, List.idxOf_append_of_mem (listed a mem_a),
        List.idxOf_append_of_notMem unlisted]
      have before := List.idxOf_lt_length_iff.2 (listed a mem_a)
      omega
  · intro name
    rw [get?_register, lastRegistered_concat, h.get?_eq]

theorem orderly_ofList (ps : List (Provider α)) : Orderly ps (ofList ps) := by
  induction ps using List.reverseRecOn with
  | nil => exact orderly_empty
  | append_singleton ps p ih =>
    rw [ofList_concat]
    exact ih.register p

/-! ## Look-ups without repeated names -/

theorem Orderly.nodup (h : Orderly ps r) : r.names.Nodup := by
  refine h.ascending.imp ?_
  rintro a b first rfl
  exact Nat.lt_irrefl _ first

/-- A provider is found under its name. -/
theorem get?_of_nodup (distinct : r.names.Nodup) {p : Provider α} (mem : p ∈ r.providers) :
    r.get? p.name = some p := by
  obtain ⟨before, after, providers⟩ := List.append_of_mem mem
  rw [names, providers, List.map_append, List.nodup_append] at distinct
  rw [get?, providers, List.find?_eq_some_iff_append]
  refine ⟨by simp, before, after, rfl, ?_⟩
  intro q earlier
  have other := distinct.2.2 q.name (List.mem_map_of_mem earlier) p.name (by simp)
  simpa using other

/-- Looking through all providers is looking through all names. -/
theorem claimant?_of_nodup (distinct : r.names.Nodup) (model : String) :
    r.claimant? model = r.names.find? fun name => (r.get? name).any (·.claims model) := by
  have same : ∀ p ∈ r.providers, p.claims model = (r.get? p.name).any (·.claims model) := by
    intro p mem
    rw [get?_of_nodup distinct mem, Option.any_some]
  rw [claimant?, names, List.find?_map, List.find?_congr same]
  rfl

theorem contains_iff {name : String} : r.contains name = true ↔ name ∈ r.names := by
  simp [contains, names]

theorem contains_eq_isSome (name : String) : r.contains name = (r.get? name).isSome := by
  rw [contains, get?, List.isSome_find?]

end Registry

/-- **A registry after any registrations.**  Its names are distinct and stand in the order in
which each was first registered; there are as many as were ever registered.  Under each name
stands the provider that was registered last, and nothing under a name that never was.  The
claimant of a model is the first name in this order whose last provider claims the model. -/
theorem registry_orderly (ps : List (Provider α)) :
    let r := Registry.ofList ps
    r.names.Nodup ∧
    (r.names.Pairwise fun a b => (ps.map (·.name)).idxOf a < (ps.map (·.name)).idxOf b) ∧
    (∀ name, name ∈ r.names ↔ ∃ p ∈ ps, p.name = name) ∧
    r.size = (ps.map (·.name)).toFinset.card ∧
    (∀ name, r.get? name = lastRegistered ps name) ∧
    (∀ name, r.get? name = none ↔ ∀ p ∈ ps, p.name ≠ name) ∧
    (∀ name, r.contains name = (r.get? name).isSome) ∧
    ∀ model, r.claimant? model =
      r.names.find? fun name => (lastRegistered ps name).any (·.claims model) := by
  intro r
  have orderly := Registry.orderly_ofList ps
  have distinct := orderly.nodup
  refine ⟨distinct, orderly.ascending, orderly.mem_names, ?_, orderly.get?_eq, ?_,
    Registry.contains_eq_isSome, ?_⟩
  · have listed : r.names.toFinset = (ps.map (·.name)).toFinset := by
      ext name
      rw [List.mem_toFinset, List.mem_toFinset, orderly.mem_names, List.mem_map]
    rw [← listed, List.toFinset_card_of_nodup distinct, Registry.names, List.length_map,
      Registry.size]
  · intro name
    rw [orderly.get?_eq, lastRegistered, List.getLast?_eq_none_iff, List.filter_eq_nil_iff]
    simp only [decide_eq_true_eq, ne_eq]
  · intro model
    rw [Registry.claimant?_of_nodup distinct]
    exact congrArg r.names.find? (funext fun name => by rw [orderly.get?_eq])

/-- A name keeps its place, and is served by who came last. -/
example : (Registry.ofList [⟨"a", claimsStarting ["x"], 1⟩, ⟨"b", claimsStarting ["y"], 2⟩,
    ⟨"a", claimsStarting ["y"], 3⟩]).claimant? "yz" = some "a" := by decide

end ChatGateway

import ChatGateway.Proofs.Routing.Candidates
import Mathlib.Data.List.Sort

/-!
# Selecting a rule

The rule of a model is found in one pass that keeps the best rule so far.  It is the first of
the model's rules in a stable sort by descending priority.  Keeping the better of two rules is
associative, so the pass may be cut anywhere: of two rows of rules the later one decides exactly
if it outranks the earlier.  Rules that are there already never do.

## Main definitions

* `ranked` — the rules of a model, in the order in which they count.
* `better` — the one of two best rules that counts.
* `Outranks` — a later row of rules decides over an earlier one.
* `selection_by_rank` — what is selected from one row of rules, and from two.
-/

namespace ChatGateway

/-! ## Ranking -/

/-- A rule may stand before another when rules are ranked. -/
def RoutingRule.precedes (a b : RoutingRule) : Bool :=
  b.priority ≤ a.priority

/-- The rules of a model by descending priority, and of equals in order of registration. -/
def ranked (rules : List RoutingRule) (model : String) : List RoutingRule :=
  (rules.filter fun r => r.primary? = some model).mergeSort RoutingRule.precedes

namespace RoutingRule

theorem precedes_iff {a b : RoutingRule} : a.precedes b = true ↔ b.priority ≤ a.priority := by
  simp only [precedes, decide_eq_true_eq]

theorem precedes_trans (a b c : RoutingRule) (a_b : a.precedes b = true)
    (b_c : b.precedes c = true) : a.precedes c = true := by
  rw [precedes_iff] at a_b b_c ⊢
  exact Int64.le_trans b_c a_b

theorem precedes_total (a b : RoutingRule) : (a.precedes b || b.precedes a) = true := by
  rw [Bool.or_eq_true, precedes_iff, precedes_iff]
  exact Int64.le_total b.priority a.priority

end RoutingRule

open RoutingRule

theorem mem_ranked {rules : List RoutingRule} {model : String} {r : RoutingRule} :
    r ∈ ranked rules model ↔ r ∈ rules ∧ r.primary? = some model := by
  rw [ranked, List.mem_mergeSort, List.mem_filter, decide_eq_true_eq]

theorem pairwise_ranked (rules : List RoutingRule) (model : String) :
    (ranked rules model).Pairwise fun a b => a.precedes b = true :=
  List.pairwise_mergeSort precedes_trans precedes_total _

/-! ## The better of two rules -/

/-- The one of two best rules that counts; of equals the earlier. -/
def better (earlier : Option RoutingRule) : Option RoutingRule → Option RoutingRule
  | none => earlier
  | some later => some (preferred earlier later)

theorem preferred_of_le {earlier later : RoutingRule} (h : later.priority ≤ earlier.priority) :
    preferred (some earlier) later = earlier := by
  rw [preferred, if_pos h]

theorem preferred_of_lt {earlier later : RoutingRule} (h : earlier.priority < later.priority) :
    preferred (some earlier) later = later := by
  rw [preferred, if_neg (Int64.not_le.2 h)]

theorem preferred_assoc (first : Option RoutingRule) (second third : RoutingRule) :
    preferred (some (preferred first second)) third =
      preferred first (preferred (some second) third) := by
  cases first with
  | none => rfl
  | some first =>
    by_cases first_second : second.priority ≤ first.priority
    · by_cases second_third : third.priority ≤ second.priority
      · have first_third := Int64.le_trans second_third first_second
        rw [preferred_of_le first_second, preferred_of_le second_third,
          preferred_of_le first_second, preferred_of_le first_third]
      · rw [preferred_of_le first_second, preferred_of_lt (Int64.not_le.1 second_third)]
    · have second_first := Int64.not_le.1 first_second
      rw [preferred_of_lt second_first]
      by_cases second_third : third.priority ≤ second.priority
      · rw [preferred_of_le second_third, preferred_of_lt second_first]
      · have third_second := Int64.not_le.1 second_third
        have third_first := Int64.lt_trans second_first third_second
        rw [preferred_of_lt third_second, preferred_of_lt third_first]

/-- A pass over rules goes on from the best of those before as it goes on from none. -/
theorem foldl_preferred_eq (rules : List RoutingRule) (best : Option RoutingRule) :
    rules.foldl (fun best r => some (preferred best r)) best =
      better best (rules.foldl (fun best r => some (preferred best r)) none) := by
  induction rules generalizing best with
  | nil => rfl
  | cons rule rules ih =>
    rw [List.foldl_cons, List.foldl_cons, ih (some (preferred best rule)),
      ih (some (preferred none rule))]
    cases rules.foldl (fun best r => some (preferred best r)) none with
    | none => rfl
    | some last => exact congrArg some (preferred_assoc best rule last)

theorem bestRule?_append (earlier later : List RoutingRule) (model : String) :
    bestRule? (earlier ++ later) model =
      better (bestRule? earlier model) (bestRule? later model) := by
  rw [bestRule?, List.filter_append, List.foldl_append, foldl_preferred_eq]
  rfl

/-! ## The first of a stable sort -/

/-- A rule in front of others comes first in the sort, unless one of them outranks it. -/
theorem head?_mergeSort_cons (rule : RoutingRule) (rules : List RoutingRule) :
    ((rule :: rules).mergeSort precedes).head? =
      better (some rule) (rules.mergeSort precedes).head? := by
  obtain ⟨above, below, sorted, sorted_rules, outranked⟩ :=
    List.mergeSort_cons precedes_trans precedes_total rule rules
  rw [sorted, sorted_rules]
  cases above with
  | nil =>
    cases below with
    | nil => rfl
    | cons next below =>
      have pairwise := List.pairwise_mergeSort precedes_trans precedes_total (rule :: rules)
      rw [sorted, List.nil_append] at pairwise
      have behind := (List.pairwise_cons.1 pairwise).1 next List.mem_cons_self
      exact congrArg some (preferred_of_le (precedes_iff.1 behind)).symm
  | cons first above =>
    have ahead := outranked first List.mem_cons_self
    rw [Bool.not_eq_true', ← Bool.not_eq_true, precedes_iff, Int64.not_le] at ahead
    exact congrArg some (preferred_of_lt ahead).symm

/-- **The rule of a model is the first of its rules, ranked.** -/
theorem bestRule?_eq_head? (rules : List RoutingRule) (model : String) :
    bestRule? rules model = (ranked rules model).head? := by
  rw [bestRule?, ranked]
  induction rules.filter fun r => r.primary? = some model with
  | nil => rw [List.mergeSort_nil]; rfl
  | cons rule rules ih =>
    rw [List.foldl_cons, foldl_preferred_eq, ih, head?_mergeSort_cons]
    rfl

/-! ## Two rows of rules -/

/-- The later of two rows of rules decides for a model: the earlier has no rule of it, or the
later has one that outranks them all. -/
def Outranks (later earlier : List RoutingRule) (model : String) : Prop :=
  (∀ q ∈ earlier, q.primary? ≠ some model) ∨
    ∃ r ∈ later, r.primary? = some model ∧
      ∀ q ∈ earlier, q.primary? = some model → q.priority < r.priority

instance (later earlier : List RoutingRule) (model : String) :
    Decidable (Outranks later earlier model) :=
  inferInstanceAs (Decidable (_ ∨ _))

section Rows

variable {earlier later rules : List RoutingRule} {model : String}

theorem bestRule?_eq_none_iff :
    bestRule? rules model = none ↔ ∀ r ∈ rules, r.primary? ≠ some model := by
  rw [bestRule?_eq_head?, List.head?_eq_none_iff, List.eq_nil_iff_forall_not_mem]
  simp only [mem_ranked, not_and, ne_eq]

/-- No rule of a model is above the one that counts. -/
theorem le_priority_of_bestRule? {best : RoutingRule} (h : bestRule? rules model = some best) :
    ∀ r ∈ rules, r.primary? = some model → r.priority ≤ best.priority := by
  intro r mem own
  have listed := mem_ranked.2 ⟨mem, own⟩
  have pairwise := pairwise_ranked rules model
  rw [bestRule?_eq_head?] at h
  obtain ⟨others, ranking⟩ := List.head?_eq_some_iff.1 h
  rw [ranking] at listed pairwise
  rcases List.mem_cons.1 listed with rfl | later
  · exact Int64.le_refl _
  · exact precedes_iff.1 ((List.pairwise_cons.1 pairwise).1 r later)

/-- Of two rules that count in their rows, the later outranks the earlier exactly if its row
does. -/
theorem outranks_iff {first last : RoutingRule} (hfirst : bestRule? earlier model = some first)
    (hlast : bestRule? later model = some last) :
    Outranks later earlier model ↔ first.priority < last.priority := by
  obtain ⟨first_mem, first_own⟩ := of_bestRule? hfirst
  obtain ⟨last_mem, last_own⟩ := of_bestRule? hlast
  constructor
  · rintro (unruled | ⟨r, mem, own, above⟩)
    · exact absurd first_own (unruled first first_mem)
    · exact Int64.lt_of_lt_of_le (above first first_mem first_own)
        (le_priority_of_bestRule? hlast r mem own)
  · intro above
    refine .inr ⟨last, last_mem, last_own, ?_⟩
    intro q mem own
    exact Int64.lt_of_le_of_lt (le_priority_of_bestRule? hfirst q mem own) above

theorem bestRule?_append_of_outranks (h : Outranks later earlier model) :
    bestRule? (earlier ++ later) model = bestRule? later model := by
  rw [bestRule?_append]
  cases hfirst : bestRule? earlier model with
  | none => cases bestRule? later model <;> rfl
  | some first =>
    cases hlast : bestRule? later model with
    | none =>
      rcases h with unruled | ⟨r, mem, own, -⟩
      · rw [bestRule?_eq_none_iff.2 unruled] at hfirst
        cases hfirst
      · exact absurd own (bestRule?_eq_none_iff.1 hlast r mem)
    | some last => exact congrArg some (preferred_of_lt ((outranks_iff hfirst hlast).1 h))

theorem bestRule?_append_of_not_outranks (h : ¬ Outranks later earlier model) :
    bestRule? (earlier ++ later) model = bestRule? earlier model := by
  rw [bestRule?_append]
  cases hfirst : bestRule? earlier model with
  | none => exact absurd (.inl (bestRule?_eq_none_iff.1 hfirst)) h
  | some first =>
    cases hlast : bestRule? later model with
    | none => rfl
    | some last =>
      rw [outranks_iff hfirst hlast, Int64.not_lt] at h
      exact congrArg some (preferred_of_le h)

/-- Rules that are there already outrank none, unless there is no rule of the model at all. -/
theorem bestRule?_append_of_subset (h : later ⊆ earlier) :
    bestRule? (earlier ++ later) model = bestRule? earlier model := by
  by_cases outranks : Outranks later earlier model
  · rcases outranks with unruled | ⟨r, mem, own, above⟩
    · rw [bestRule?_eq_none_iff.2 unruled, bestRule?_eq_none_iff]
      intro r mem
      rcases List.mem_append.1 mem with mem | mem
      · exact unruled r mem
      · exact unruled r (h mem)
    · exact absurd (above r (h mem) own) Int64.lt_irrefl
  · exact bestRule?_append_of_not_outranks outranks

end Rows

/-- The rules of a configuration stay when layers are laid over it. -/
theorem Config.routingRules_subset_foldl_merge (c : Config) (layers : List Config) :
    c.routingRules ⊆ (layers.foldl merge c).routingRules := by
  induction layers generalizing c with
  | nil => exact fun _ mem => mem
  | cons layer layers ih =>
    intro r mem
    exact ih (c.merge layer) (List.mem_append_left _ mem)

/-- **Selection by rank.**  The candidates of a model are those of the first of its rules in a
stable sort by descending priority, or the model alone, and begin with the model.  From two rows
of rules the candidates are those of the later row if it outranks the earlier, and of the
earlier otherwise.  So laying a layer over once more, after whatever layers, leaves the
candidates of every model as they were. -/
theorem selection_by_rank :
    (∀ (rules : List RoutingRule) (model : String),
      selectCandidates rules model =
        ((ranked rules model).head?.map (·.fallbackModels)).getD [model] ∧
      (selectCandidates rules model).head? = some model) ∧
    (∀ (earlier later : List RoutingRule) (model : String),
      selectCandidates (earlier ++ later) model =
        if Outranks later earlier model then selectCandidates later model
        else selectCandidates earlier model) ∧
    ∀ (c layer : Config) (layers : List Config) (model : String),
      selectCandidates ((layers.foldl Config.merge (c.merge layer)).merge layer).routingRules
          model =
        selectCandidates (layers.foldl Config.merge (c.merge layer)).routingRules model := by
  refine ⟨?_, ?_, ?_⟩
  · intro rules model
    refine ⟨?_, head?_selectCandidates rules model⟩
    rw [selectCandidates, bestRule?_eq_head?]
    cases (ranked rules model).head? <;> rfl
  · intro earlier later model
    by_cases h : Outranks later earlier model
    · rw [if_pos h, selectCandidates, bestRule?_append_of_outranks h, selectCandidates]
    · rw [if_neg h, selectCandidates, bestRule?_append_of_not_outranks h, selectCandidates]
  · intro c layer layers model
    have there : layer.routingRules ⊆
        (layers.foldl Config.merge (c.merge layer)).routingRules := by
      intro r mem
      apply Config.routingRules_subset_foldl_merge
      exact List.mem_append_right _ mem
    rw [selectCandidates, Config.merge, bestRule?_append_of_subset there, selectCandidates]

/-- Of equal priorities the earlier counts, also where both are negative. -/
example : selectCandidates [⟨"none", 9, []⟩, ⟨"a", -3, ["m", "x"]⟩, ⟨"b", -3, ["m", "y"]⟩] "m" =
    ["m", "x"] := by decide

end ChatGateway

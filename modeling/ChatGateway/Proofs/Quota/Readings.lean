import ChatGateway.Proofs.Quota.History

/-!
# What a read tells of the next admission

A read changes nothing.  For a window that the key has not entered yet it works out what the
counters would be there, whereas an admission enters the window, makes counters for a key that
was never seen, and then checks and charges.  The two agree: whoever reads the counters in a
window knows from the figures alone whether a call is admitted there, on which axis it is denied
and with which figures, and what the next read will show.

## Main definitions

* `QuotaUsage.on`, `QuotaSpec.limit?`, `Dimension.place` — the axes of figures and limits.
* `QuotaUsage.Fits` — a call stays within the limit of an axis.
* `Denial.Foretold` — a refusal that the figures foretell.
* `usageIn_eq`, `usage?_eq` — a read shows the counters as they are on entering the window.
-/

namespace ChatGateway

/-! ## Axes -/

/-- The place of an axis in the order in which they are checked. -/
def Dimension.place : Dimension → Nat
  | requests => 0
  | tokens => 1
  | budget => 2

/-- The limit of an axis. -/
def QuotaSpec.limit? (spec : QuotaSpec) : Dimension → Option UInt64
  | .requests => spec.requestsPerMinute
  | .tokens => spec.tokensPerMinute
  | .budget => spec.budgetCents

namespace QuotaUsage

/-- The figure of an axis. -/
def on (u : QuotaUsage) : Dimension → UInt64
  | .requests => u.requests
  | .tokens => u.tokens
  | .budget => u.spentCents

/-- What one call asks for. -/
def ofCall (tokens cost : UInt64) : QuotaUsage :=
  ⟨1, tokens, cost⟩

/-- A call stays within the limit of an axis, if the axis has one. -/
def Fits (u call : QuotaUsage) (spec : QuotaSpec) (axis : Dimension) : Prop :=
  ∀ l, spec.limit? axis = some l → satAdd (u.on axis) (call.on axis) ≤ l

end QuotaUsage

/-- A refusal that the figures of a key foretell: it names the first axis on which the call does
not fit, with the figures of that axis. -/
structure Denial.Foretold (d : Denial) (key : String) (u call : QuotaUsage) (spec : QuotaSpec) :
    Prop where
  key_eq : d.key = key
  limit_eq : spec.limit? d.dimension = some d.limit
  current_eq : d.current = u.on d.dimension
  requested_eq : d.requested = call.on d.dimension
  unfit : ¬ u.Fits call spec d.dimension
  first : ∀ axis, axis.place < d.dimension.place → u.Fits call spec axis
  /-- The exact sum passes the limit as well. -/
  passed : d.limit.toNat < d.current.toNat + d.requested.toNat

/-! ## Counters as figures -/

namespace KeyState

/-- The figures that the counters show in their own window. -/
def usage (s : KeyState) : QuotaUsage :=
  ⟨s.requests, s.tokens, s.spentCents⟩

/-- Entering two windows in order is entering the later one. -/
theorem enter_enter (s : KeyState) {window later : Int} (h : window ≤ later) :
    (s.enter window).enter later = s.enter later := by
  unfold enter
  grind

/-- A read shows the counters as they are on entering the window. -/
theorem usageIn_eq (s : KeyState) (window : Int) : s.usageIn window = (s.enter window).usage := by
  unfold usageIn enter
  by_cases passed : s.window < window
  · rw [if_neg (by omega), if_pos passed]
    rfl
  · rw [if_pos (by omega), if_neg passed]
    rfl

/-- The refusal on an axis, if a call does not fit there. -/
def refusal? (s : KeyState) (key : String) (spec : QuotaSpec) (call : QuotaUsage)
    (axis : Dimension) : Option Denial :=
  (spec.limit? axis).bind fun limit =>
    if limit < satAdd (s.usage.on axis) (call.on axis) then
      some ⟨key, axis, limit, s.usage.on axis, call.on axis⟩
    else none

theorem denial?_eq (s : KeyState) (key : String) (spec : QuotaSpec) (tokens cost : UInt64) :
    s.denial? key spec tokens cost =
      (s.refusal? key spec (.ofCall tokens cost) .requests).or
        ((s.refusal? key spec (.ofCall tokens cost) .tokens).or
          (s.refusal? key spec (.ofCall tokens cost) .budget)) := by
  simp only [denial?, Option.orElse_eq_orElse, Option.orElse_eq_or]
  rfl

theorem refusal?_eq_none_iff {s : KeyState} {key : String} {spec : QuotaSpec} {call : QuotaUsage}
    {axis : Dimension} :
    s.refusal? key spec call axis = none ↔ s.usage.Fits call spec axis := by
  unfold refusal? QuotaUsage.Fits
  cases spec.limit? axis <;> simp [UInt64.not_lt]

/-- A refusal on an axis, with all axes before it in order, is foretold. -/
theorem foretold_of_refusal? {s : KeyState} {key : String} {spec : QuotaSpec} {call : QuotaUsage}
    {axis : Dimension} {d : Denial} (h : s.refusal? key spec call axis = some d)
    (first : ∀ earlier, earlier.place < axis.place → s.usage.Fits call spec earlier) :
    d.Foretold key s.usage call spec := by
  have unfit : ¬ s.usage.Fits call spec axis := by
    intro fits
    rw [refusal?_eq_none_iff.2 fits] at h
    cases h
  obtain ⟨limit, hl, h⟩ := Option.bind_eq_some_iff.1 h
  split at h
  · rename_i beyond
    cases h
    simp only [UInt64.lt_iff_toNat_lt, toNat_satAdd] at beyond
    refine ⟨rfl, hl, rfl, rfl, unfit, first, ?_⟩
    simp only
    omega
  · cases h

/-- A call is admitted when it fits on every axis. -/
theorem denial?_eq_none_iff_fits (s : KeyState) (key : String) (spec : QuotaSpec)
    (tokens cost : UInt64) :
    s.denial? key spec tokens cost = none ↔
      ∀ axis, s.usage.Fits (.ofCall tokens cost) spec axis := by
  simp only [denial?_eq, Option.or_eq_none_iff, refusal?_eq_none_iff]
  constructor
  · rintro ⟨requests, rates, budget⟩ axis
    cases axis <;> assumption
  · intro fits
    exact ⟨fits .requests, fits .tokens, fits .budget⟩

/-- A refusal is the one that the figures foretell. -/
theorem foretold_of_denial? {s : KeyState} {key : String} {spec : QuotaSpec}
    {tokens cost : UInt64} {d : Denial} (h : s.denial? key spec tokens cost = some d) :
    d.Foretold key s.usage (.ofCall tokens cost) spec := by
  rw [denial?_eq, Option.or_eq_some_iff, Option.or_eq_some_iff] at h
  simp only [refusal?_eq_none_iff] at h
  rcases h with h | ⟨requests, h | ⟨rates, h⟩⟩
  · exact foretold_of_refusal? h fun _ before => absurd before (Nat.not_lt_zero _)
  · refine foretold_of_refusal? h fun earlier before => ?_
    cases earlier with
    | requests => exact requests
    | tokens => exact absurd before (Nat.lt_irrefl _)
    | budget => exact absurd before (by decide)
  · refine foretold_of_refusal? h fun earlier before => ?_
    cases earlier with
    | requests => exact requests
    | tokens => exact rates
    | budget => exact absurd before (Nat.lt_irrefl _)

end KeyState

/-! ## Reads of a store -/

namespace QuotaStore

/-- A read shows the counters of a key as they are on entering the window. -/
theorem usage?_eq (store : QuotaStore) (key : String) (window : Int) :
    store.usage? key window =
      (store.keys.get? key).map fun _ => (store.stateIn key window).usage := by
  unfold usage? stateIn
  cases store.keys.get? key with
  | none => rfl
  | some s => simp [s.usageIn_eq]

/-- A key that was never seen is read as zeros, and has zeros when an admission finds it. -/
theorem getD_usage? (store : QuotaStore) (key : String) (window : Int) :
    (store.usage? key window).getD {} = (store.stateIn key window).usage := by
  rw [usage?_eq]
  cases hs : store.keys.get? key with
  | some s => rfl
  | none =>
    unfold stateIn KeyState.enter
    rw [hs]
    simp [KeyState.usage]

/-- What is kept for a key that has entered the window is what a read shows. -/
theorem usage?_put (store : QuotaStore) (key : String) {s : KeyState} {window : Int}
    (entered : window ≤ s.window) : (store.put key s).usage? key window = some s.usage := by
  simp [usage?, KeyState.usageIn, entered, KeyState.usage]

theorem le_window_stateIn (store : QuotaStore) (key : String) (window : Int) :
    window ≤ (store.stateIn key window).window := by
  unfold stateIn KeyState.enter
  split
  · exact Int.le_refl window
  · omega

end QuotaStore

/-- **A read tells of the next admission.**  Whatever a key has consumed, and whether the window
is later than the one it is in, the same or earlier: the call is admitted if and only if it fits
on every axis that has a limit; then the next read shows the call on top of the figures.
Otherwise it is denied on the first axis on which it does not fit, with the figures of that axis,
and the next read shows the same figures again. -/
theorem reserve_agrees_with_usage (store : QuotaStore) (key : String) (spec : QuotaSpec)
    (window : Int) (tokens cost : UInt64) (u : QuotaUsage)
    (read : (store.usage? key window).getD {} = u) (counted : u.requests.toNat < word64Max) :
    let answer := (store.reserve key spec window tokens cost).1
    let after := (store.reserve key spec window tokens cost).2
    ((∃ r, answer = .allow r) ↔ ∀ axis, u.Fits (.ofCall tokens cost) spec axis) ∧
      (∀ r, answer = .allow r → ∃ v, after.usage? key window = some v ∧
        v.requests.toNat = u.requests.toNat + 1 ∧ v.tokens = satAdd u.tokens tokens ∧
        v.spentCents = satAdd u.spentCents cost) ∧
      ∀ d, answer = .deny d →
        d.Foretold key u (.ofCall tokens cost) spec ∧ after.usage? key window = some u := by
  rw [QuotaStore.getD_usage?] at read
  subst read
  have entered := store.le_window_stateIn key window
  cases h : (store.stateIn key window).denial? key spec tokens cost with
  | none =>
    rw [QuotaStore.reserve_of_admitted h]
    have fits := (KeyState.denial?_eq_none_iff_fits _ key spec tokens cost).1 h
    refine ⟨⟨fun _ => fits, fun _ => ⟨_, rfl⟩⟩, fun r _ => ?_, by simp⟩
    refine ⟨_, store.usage?_put key entered, ?_, rfl, rfl⟩
    simp only [KeyState.usage, KeyState.charge, UInt64.toNat_add, UInt64.toNat_one] at counted ⊢
    rw [Nat.mod_eq_of_lt]
    simp only [word64Max] at counted
    omega
  | some d =>
    rw [QuotaStore.reserve_of_denied h]
    have foretold := KeyState.foretold_of_denial? h
    refine ⟨⟨by simp, fun fits => absurd (fits _) foretold.unfit⟩, by simp, fun d' same => ?_⟩
    cases same
    exact ⟨foretold, store.usage?_put key entered⟩

/-- A store that has settled one call of a key in window 5. -/
def settledStore : QuotaStore :=
  ({} : QuotaStore).run [.reserve "k" .unlimited 5 20 9, .reconcile ⟨"k", 5, 20, 9⟩ 5 25 7]

/-- Limits that leave the key two requests, five tokens and one cent. -/
def narrowSpec : QuotaSpec :=
  { requestsPerMinute := some 3, tokensPerMinute := some 30, budgetCents := some 8 }

/-- A call for an earlier window, which fits on neither of two axes. -/
theorem reserve_agrees_with_usage_narrow :
    (settledStore.usage? "k" 4).getD {} = ⟨1, 25, 7⟩ ∧ (1 : UInt64).toNat < word64Max ∧
      (settledStore.reserve "k" narrowSpec 4 10 2).1 = .deny ⟨"k", .tokens, 30, 25, 10⟩ ∧
      (Denial.mk "k" .tokens 30 25 10).Foretold "k" ⟨1, 25, 7⟩ (.ofCall 10 2) narrowSpec ∧
      (settledStore.reserve "k" narrowSpec 4 10 2).2.usage? "k" 4 = some ⟨1, 25, 7⟩ := by
  have read : (settledStore.usage? "k" 4).getD {} = ⟨1, 25, 7⟩ := by decide +kernel
  have counted : (1 : UInt64).toNat < word64Max := by decide
  have denied : (settledStore.reserve "k" narrowSpec 4 10 2).1 =
      .deny ⟨"k", .tokens, 30, 25, 10⟩ := by decide +kernel
  obtain ⟨-, -, refused⟩ :=
    reserve_agrees_with_usage settledStore "k" narrowSpec 4 10 2 ⟨1, 25, 7⟩ read counted
  exact ⟨read, counted, denied, refused _ denied⟩

end ChatGateway

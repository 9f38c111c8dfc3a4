import ChatGateway.Proofs.Quota.Requests
import Mathlib.Algebra.BigOperators.Group.Multiset.Basic
import Mathlib.Algebra.Order.BigOperators.Group.Multiset

/-!
# Exact accounting over whole histories

A call holds its estimate until it is settled; then its actual consumption takes the
place of the estimate.  Between the two, other calls of the key are admitted and
settled, and its window may pass.  When every reservation that comes back was given
out and comes back once, and no total outgrows a word, nothing is ever clamped: the
counters of a key are exactly what its account says.

Tokens are counted in the window in which they were reserved until they are settled,
and then in the window in which that happened.

## Main definitions

* `Account.outstanding` — the reservations that were not settled yet.
* `Account.spent`, `Account.tokensIn` — the exact totals.
* `Account.Honest`, `Account.Fits` — what is asked of the callers, and of the totals.
* `Account.Balanced` — counters that show the totals.
-/

namespace ChatGateway

/-- The tokens that a reservation holds in a window. -/
def Reservation.tokensIn (r : Reservation) (window : Int) : Nat :=
  if r.window = window then r.tokens.toNat else 0

/-- The tokens that a settlement bills to a window. -/
def Settlement.tokensIn (t : Settlement) (window : Int) : Nat :=
  if t.window = window then t.tokens.toNat else 0

namespace Account

/-! ## Totals -/

/-- The reservations that came back, each as often as it did. -/
def returned (a : Account) : Multiset Reservation :=
  ↑(a.settled.map (·.reservation))

/-- The reservations that did not come back yet. -/
def outstanding (a : Account) : Multiset Reservation :=
  ↑a.allowed - a.returned

/-- No reservation came back that was not given out, and none more often. -/
def Honest (a : Account) : Prop :=
  a.returned ≤ ↑a.allowed

instance (a : Account) : Decidable a.Honest :=
  inferInstanceAs (Decidable (a.returned ≤ ↑a.allowed))

/-- A figure of the reservations that did not come back yet. -/
def held (a : Account) (f : Reservation → Nat) : Nat :=
  (a.outstanding.map f).sum

/-- A figure of the settlements. -/
def billed (a : Account) (f : Settlement → Nat) : Nat :=
  (a.settled.map f).sum

/-- The cents that are held or billed. -/
def spent (a : Account) : Nat :=
  (a.held fun r => r.costCents.toNat) + a.billed fun t => t.costCents.toNat

/-- The tokens that are held in or billed to a window. -/
def tokensIn (a : Account) (window : Int) : Nat :=
  (a.held fun r => r.tokensIn window) + a.billed fun t => t.tokensIn window

@[simp] theorem returned_allow (a : Account) (r : Reservation) :
    (a.allow r).returned = a.returned := rfl

@[simp] theorem returned_settle (a : Account) (t : Settlement) :
    (a.settle t).returned = a.returned + {t.reservation} := by
  simp [returned, ← Multiset.coe_add]

@[simp] theorem billed_allow (a : Account) (r : Reservation) (f : Settlement → Nat) :
    (a.allow r).billed f = a.billed f := rfl

@[simp] theorem billed_settle (a : Account) (t : Settlement) (f : Settlement → Nat) :
    (a.settle t).billed f = a.billed f + f t := by
  simp [billed]

/-- A reservation that is given out is outstanding. -/
theorem held_allow {a : Account} (h : a.Honest) (r : Reservation) (f : Reservation → Nat) :
    (a.allow r).held f = a.held f + f r := by
  have grown : (a.allow r).outstanding = a.outstanding + {r} := by
    simp only [outstanding, returned_allow, allowed_allow, ← Multiset.coe_add,
      Multiset.coe_singleton]
    exact (tsub_add_eq_add_tsub h).symm
  simp [held, grown]

/-- A reservation that may still come back is outstanding. -/
theorem mem_outstanding_of_settle {a : Account} {t : Settlement} (h : (a.settle t).Honest) :
    t.reservation ∈ a.outstanding := by
  have : a.returned + {t.reservation} ≤ (a.allowed : Multiset Reservation) := by
    simpa [Honest] using h
  exact Multiset.singleton_le.1 (le_tsub_of_add_le_left this)

/-- A reservation that comes back is no longer outstanding. -/
theorem held_settle {a : Account} {t : Settlement} (h : (a.settle t).Honest)
    (f : Reservation → Nat) : (a.settle t).held f + f t.reservation = a.held f := by
  have shrunk : (a.settle t).outstanding = a.outstanding.erase t.reservation := by
    simp only [outstanding, returned_settle, allowed_settle, tsub_add_eq_tsub_tsub,
      Multiset.sub_singleton]
  rw [held, shrunk, add_comm]
  exact Multiset.sum_map_erase (mem_outstanding_of_settle h)

theorem spent_allow {a : Account} (h : a.Honest) (r : Reservation) :
    (a.allow r).spent = a.spent + r.costCents.toNat := by
  simp only [spent, held_allow h, billed_allow]
  omega

theorem tokensIn_allow {a : Account} (h : a.Honest) (r : Reservation) (window : Int) :
    (a.allow r).tokensIn window = a.tokensIn window + r.tokensIn window := by
  simp only [tokensIn, held_allow h, billed_allow]
  omega

/-- Settling puts a bill in the place of an estimate that is part of the total. -/
theorem spent_settle {a : Account} {t : Settlement} (h : (a.settle t).Honest) :
    t.reservation.costCents.toNat ≤ a.spent ∧
      (a.settle t).spent + t.reservation.costCents.toNat = a.spent + t.costCents.toNat := by
  have := held_settle h fun r => r.costCents.toNat
  simp only [spent, billed_settle]
  omega

/-- The same for the tokens of a window, of which the estimate may be no part. -/
theorem tokensIn_settle {a : Account} {t : Settlement} (h : (a.settle t).Honest) (window : Int) :
    t.reservation.tokensIn window ≤ a.tokensIn window ∧
      (a.settle t).tokensIn window + t.reservation.tokensIn window =
        a.tokensIn window + t.tokensIn window := by
  have := held_settle h fun r => r.tokensIn window
  simp only [tokensIn, billed_settle]
  omega

/-- A window after everything in the account holds no tokens. -/
theorem tokensIn_eq_zero {a : Account} {window : Int}
    (allowed : ∀ r ∈ a.allowed, r.window < window)
    (settled : ∀ t ∈ a.settled, t.window < window) : a.tokensIn window = 0 := by
  have held : (a.held fun r => r.tokensIn window) = 0 := by
    refine Multiset.sum_eq_zero fun n hn => ?_
    obtain ⟨r, hr, rfl⟩ := Multiset.mem_map.1 hn
    have := allowed r (Multiset.mem_of_le (Multiset.sub_le_self _ _) hr)
    simp only [Reservation.tokensIn]
    rw [if_neg (by omega)]
  have billed : (a.billed fun t => t.tokensIn window) = 0 := by
    refine List.sum_eq_zero fun n hn => ?_
    obtain ⟨t, ht, rfl⟩ := List.mem_map.1 hn
    have := settled t ht
    simp only [Settlement.tokensIn]
    rw [if_neg (by omega)]
  rw [tokensIn, held, billed]

/-! ## Counters that show the totals -/

/-- The totals of an account that a word can show, with the given window current. -/
structure Fits (a : Account) (window : Int) : Prop where
  spent_le : a.spent ≤ word64Max
  tokens_le : a.tokensIn window ≤ word64Max
  requests_le : a.requestsIn window ≤ word64Max

instance (a : Account) (window : Int) : Decidable (a.Fits window) :=
  decidable_of_iff
    (a.spent ≤ word64Max ∧ a.tokensIn window ≤ word64Max ∧ a.requestsIn window ≤ word64Max)
    ⟨fun ⟨h₁, h₂, h₃⟩ => ⟨h₁, h₂, h₃⟩, fun h => ⟨h.spent_le, h.tokens_le, h.requests_le⟩⟩

/-- Counters that show the totals of cents and tokens. -/
structure Balanced (a : Account) (s : KeyState) : Prop where
  spent_eq : s.spentCents.toNat = a.spent
  tokens_eq : s.tokens.toNat = a.tokensIn s.window

namespace Balanced

variable {a : Account} {s : KeyState}

/-- A later window starts without tokens, in the counters and in the account. -/
theorem enter (h : a.Balanced s) (current : a.Current s) (window : Int) :
    a.Balanced (s.enter window) := by
  unfold KeyState.enter
  split
  · rename_i later
    constructor
    · exact h.spent_eq
    · rw [tokensIn_eq_zero]
      · rfl
      · intro r hr
        have := current.allowed_le r hr
        simp only
        omega
      · intro t ht
        have := current.settled_le t ht
        simp only
        omega
  · exact h

/-- A charge that fits is not clamped. -/
theorem charge (h : a.Balanced s) (honest : a.Honest) (key : String) (tokens cost : UInt64)
    (fits : (a.allow ⟨key, s.window, tokens, cost⟩).Fits s.window) :
    (a.allow ⟨key, s.window, tokens, cost⟩).Balanced (s.charge tokens cost) := by
  have spent : (a.allow ⟨key, s.window, tokens, cost⟩).spent = a.spent + cost.toNat :=
    spent_allow honest _
  have reserved := tokensIn_allow honest ⟨key, s.window, tokens, cost⟩ s.window
  simp only [Reservation.tokensIn, if_true] at reserved
  have spent_le := fits.spent_le
  have tokens_le := fits.tokens_le
  constructor
  · simp only [KeyState.charge, toNat_satAdd, h.spent_eq]
    omega
  · simp only [KeyState.charge, toNat_satAdd, h.tokens_eq]
    omega

/-- The estimate of an outstanding reservation is part of the counters, so taking it
back is not clamped; neither is a bill that fits. -/
theorem settle (h : a.Balanced s) (r : Reservation) (tokens cost : UInt64)
    (honest : (a.settle ⟨r, s.window, tokens, cost⟩).Honest)
    (fits : (a.settle ⟨r, s.window, tokens, cost⟩).Fits s.window) :
    (a.settle ⟨r, s.window, tokens, cost⟩).Balanced (s.settle r tokens cost) := by
  obtain ⟨cost_le, spent⟩ : r.costCents.toNat ≤ a.spent ∧
      (a.settle ⟨r, s.window, tokens, cost⟩).spent + r.costCents.toNat = a.spent + cost.toNat :=
    spent_settle honest
  obtain ⟨tokens_le, billed⟩ : r.tokensIn s.window ≤ a.tokensIn s.window ∧
      (a.settle ⟨r, s.window, tokens, cost⟩).tokensIn s.window + r.tokensIn s.window =
        a.tokensIn s.window + tokens.toNat := by
    simpa [Settlement.tokensIn] using tokensIn_settle honest s.window
  have spent_fits := fits.spent_le
  have tokens_fit := fits.tokens_le
  constructor
  · simp only [KeyState.settle, toNat_satAdd, toNat_satSub, h.spent_eq]
    omega
  · by_cases hw : s.window = r.window
    · have own : r.tokensIn s.window = r.tokens.toNat := by simp [Reservation.tokensIn, hw]
      simp only [KeyState.settle, if_pos hw, toNat_satAdd, toNat_satSub, h.tokens_eq]
      omega
    · have other : r.tokensIn s.window = 0 := by simp [Reservation.tokensIn, Ne.symm hw]
      simp only [KeyState.settle, if_neg hw, toNat_satAdd, h.tokens_eq]
      omega

end Balanced

/-- The same for a key that may not have been seen. -/
def Kept (a : Account) : Option KeyState → Prop
  | none => a = {}
  | some s => a.Balanced s

/-- Entering a window keeps counters and totals together. -/
theorem Kept.stateIn {a : Account} {store : QuotaStore} {key : String}
    (h : a.Kept (store.keys.get? key)) (agree : a.Tracked (store.keys.get? key)) (window : Int) :
    a.Balanced (store.stateIn key window) := by
  unfold QuotaStore.stateIn
  cases hs : store.keys.get? key with
  | none =>
    rw [hs] at h
    subst h
    refine Balanced.enter ⟨rfl, rfl⟩ ?_ window
    constructor <;> simp [requestsIn]
  | some s =>
    rw [hs] at h agree
    exact Balanced.enter h agree window

end Account

/-- A move of an honest account whose totals fit keeps counters and totals together. -/
theorem KeyMove.kept {key : String} {e : StoreEntry} {a a' : Account} {s' : Option KeyState}
    (move : KeyMove key a e a' s') (h : a.Kept (e.found.keys.get? key))
    (agree : a.Tracked (e.found.keys.get? key)) (before : a.Honest) (honest : a'.Honest)
    (fits : ∀ s ∈ s', a'.Fits s.window) : a'.Kept s' := by
  cases move with
  | rest => exact h
  | refuse _ window => exact h.stateIn agree window
  | charge found spec window tokens cost _ =>
    exact (h.stateIn agree window).charge before key tokens cost
      (fits ((found.stateIn key window).charge tokens cost) rfl)
  | settle found r window tokens cost _ =>
    exact (h.stateIn agree window).settle r tokens cost honest
      (fits ((found.stateIn key window).settle r tokens cost) rfl)

/-! ## Whole histories -/

/-- At every point, each reservation of a key that came back had been given out, and
came back once. -/
def HonestRun (key : String) (calls : List StoreCall) : Prop :=
  ∀ past, past <+: calls → (accountOf key past).Honest

/-- At every point, the exact totals of a key fit in a word. -/
def FitsRun (key : String) (calls : List StoreCall) : Prop :=
  ∀ past, past <+: calls → ∀ s ∈ countersOf key past, (accountOf key past).Fits s.window

/-- The counters of a key always show its totals. -/
theorem kept {key : String} {calls : List StoreCall} (honest : HonestRun key calls)
    (fits : FitsRun key calls) : (accountOf key calls).Kept (countersOf key calls) := by
  induction calls using List.reverseRecOn with
  | nil => rfl
  | append_singleton calls call ih =>
    have earlier : calls <+: calls ++ [call] := List.prefix_append _ _
    have before := ih (fun past h => honest past (h.trans earlier))
      (fun past h => fits past (h.trans earlier))
    exact (keyMove_concat key calls call).kept before (tracked key calls) (honest calls earlier)
      (honest _ List.prefix_rfl) (fits _ List.prefix_rfl)

/-- **Exact accounting over whole histories.**  When the reservations of a key come
back at most once each, and its exact totals always fit in a word, its counters are
these totals: the cents held and billed, the tokens held in and billed to its current
window, and the requests admitted in that window. -/
theorem counters_eq_account (key : String) (calls : List StoreCall)
    (honest : HonestRun key calls) (fits : FitsRun key calls) :
    match countersOf key calls with
    | none => accountOf key calls = {}
    | some s =>
      s.spentCents.toNat = (accountOf key calls).spent ∧
      s.tokens.toNat = (accountOf key calls).tokensIn s.window ∧
      s.requests.toNat = (accountOf key calls).requestsIn s.window := by
  have balanced := kept honest fits
  have agree := tracked key calls
  cases hs : countersOf key calls with
  | none => rwa [hs] at agree
  | some s =>
    rw [hs] at balanced agree
    have fit := fits calls List.prefix_rfl s hs
    refine ⟨balanced.spent_eq, balanced.tokens_eq, ?_⟩
    rw [Account.Current.requests_eq agree, Nat.mod_eq_of_lt]
    have := fit.requests_le
    simp only [word64Max] at this
    omega

/-- Two calls of a key that overlap: the second is settled first, in a later window
than that in which the first was admitted. -/
def overlappingCalls : List StoreCall :=
  [.reserve "k" { budgetCents := some 100 } 5 40 7,
   .reserve "other" .unlimited 9 1 1,
   .reserve "k" { tokensPerMinute := some 60 } 6 20 3,
   .reconcile ⟨"k", 6, 20, 3⟩ 6 50 8,
   .reserve "k" { tokensPerMinute := some 60 } 4 20 3,
   .reconcile ⟨"k", 5, 40, 7⟩ 6 10 2]

theorem counters_eq_account_overlapping :
    HonestRun "k" overlappingCalls ∧ FitsRun "k" overlappingCalls ∧
      countersOf "k" overlappingCalls = some ⟨6, 1, 60, 10⟩ ∧
      10 = (accountOf "k" overlappingCalls).spent ∧
      60 = (accountOf "k" overlappingCalls).tokensIn 6 ∧
      1 = (accountOf "k" overlappingCalls).requestsIn 6 := by
  have honest : HonestRun "k" overlappingCalls := by
    intro past h
    rw [← List.mem_inits] at h
    revert past
    decide +kernel
  have fits : FitsRun "k" overlappingCalls := by
    intro past h
    rw [← List.mem_inits] at h
    revert past
    decide +kernel
  have counters : countersOf "k" overlappingCalls = some ⟨6, 1, 60, 10⟩ := by decide +kernel
  have totals := counters_eq_account "k" overlappingCalls honest fits
  rw [counters] at totals
  exact ⟨honest, fits, counters, totals⟩

end ChatGateway

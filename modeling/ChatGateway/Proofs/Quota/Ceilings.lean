import ChatGateway.Proofs.Quota.History
import Mathlib.Data.List.Infix

/-!
# Ceilings over whole histories

An admission checks the limits of a key, but a settlement checks none: it takes the
estimate back and puts what was consumed in its place.  A counter stays below a
ceiling all the same when every admission is made under a limit of at most the
ceiling and no settlement consumes more than was reserved.  For then no reservation is
larger than the ceiling either, so it does not matter how much of it the counter still
holds: what is put back is at most what is taken out, or at most the reservation.

Nothing is asked about how often a reservation comes back, and words may be clamped at
either end.

## Main definitions

* `BudgetedRun`, `MeteredRun` — what is asked of the callers, for cents and for tokens.
* `Account.Below` — reservations and a counter that stay below a ceiling.
* `satAdd_satSub_le` — one settlement.
-/

namespace ChatGateway

/-! ## What is asked of the callers -/

/-- A call keeps a key to a budget: it asks under a budget of at most `B` cents, or it
settles a reservation that was given out for at most the cents that it reserved. -/
def StoreCall.Budgeted (key : String) (B : UInt64) (a : Account) : StoreCall → Prop
  | .reserve key' spec _ _ _ => key' = key → ∃ b ∈ spec.budgetCents, b ≤ B
  | .reconcile r _ _ cost => r.key = key → r ∈ a.allowed ∧ cost ≤ r.costCents
  | .usage _ _ => True

/-- A call keeps a key to a token rate: it asks under a rate of at most `T` tokens, or it
settles a reservation that was given out for at most the tokens that it reserved, while
the window of the reservation is current. -/
def StoreCall.Metered (key : String) (T : UInt64) (a : Account) (s? : Option KeyState) :
    StoreCall → Prop
  | .reserve key' spec _ _ _ => key' = key → ∃ t ∈ spec.tokensPerMinute, t ≤ T
  | .reconcile r _ tokens _ =>
    r.key = key → r ∈ a.allowed ∧ tokens ≤ r.tokens ∧ ∃ s ∈ s?, s.window = r.window
  | .usage _ _ => True

instance (key : String) (B : UInt64) (a : Account) (call : StoreCall) :
    Decidable (call.Budgeted key B a) :=
  match call with
  | .reserve key' spec _ _ _ =>
    inferInstanceAs (Decidable (key' = key → ∃ b ∈ spec.budgetCents, b ≤ B))
  | .reconcile r _ _ cost =>
    inferInstanceAs (Decidable (r.key = key → r ∈ a.allowed ∧ cost ≤ r.costCents))
  | .usage _ _ => inferInstanceAs (Decidable True)

instance (key : String) (T : UInt64) (a : Account) (s? : Option KeyState) (call : StoreCall) :
    Decidable (call.Metered key T a s?) :=
  match call with
  | .reserve key' spec _ _ _ =>
    inferInstanceAs (Decidable (key' = key → ∃ t ∈ spec.tokensPerMinute, t ≤ T))
  | .reconcile r _ tokens _ =>
    inferInstanceAs (Decidable
      (r.key = key → r ∈ a.allowed ∧ tokens ≤ r.tokens ∧ ∃ s ∈ s?, s.window = r.window))
  | .usage _ _ => inferInstanceAs (Decidable True)

/-- Every call keeps a key to a budget. -/
def BudgetedRun (key : String) (B : UInt64) (calls : List StoreCall) : Prop :=
  ∀ past call, past ++ [call] <+: calls → call.Budgeted key B (accountOf key past)

/-- Every call keeps a key to a token rate. -/
def MeteredRun (key : String) (T : UInt64) (calls : List StoreCall) : Prop :=
  ∀ past call, past ++ [call] <+: calls →
    call.Metered key T (accountOf key past) (countersOf key past)

/-! ## Words below a ceiling -/

/-- What is admitted below a ceiling is itself below it. -/
theorem le_of_satAdd_le {n a C : UInt64} (h : satAdd n a ≤ C) : a ≤ C := by
  have small := toNat_le_word64Max a
  simp only [UInt64.le_iff_toNat_le, toNat_satAdd] at h ⊢
  omega

/-- Putting at most a reservation in its place keeps a counter below the ceiling of both,
also where the counter holds less than the reservation. -/
theorem satAdd_satSub_le {n held used C : UInt64} (counter : n ≤ C) (reserved : held ≤ C)
    (within : used ≤ held) : satAdd (satSub n held) used ≤ C := by
  simp only [UInt64.le_iff_toNat_le, toNat_satAdd, toNat_satSub] at *
  omega

/-! ## Reservations and counters -/

/-- Reservations and a counter that stay below a ceiling. -/
structure Account.Below (reserved : Reservation → UInt64) (counter : KeyState → UInt64)
    (C : UInt64) (a : Account) (s? : Option KeyState) : Prop where
  allowed_le : ∀ r ∈ a.allowed, reserved r ≤ C
  counter_le : ∀ s ∈ s?, counter s ≤ C

section Below

variable {reserved : Reservation → UInt64} {counter : KeyState → UInt64} {C : UInt64}
  {a a' : Account} {key : String}

/-- A counter that starts at zero, and that a window may only start over, stays below the
ceiling when a window is entered. -/
theorem Account.Below.stateIn {store : QuotaStore}
    (h : a.Below reserved counter C (store.keys.get? key)) (window : Int)
    (blank : counter { window := window } = 0)
    (enter : ∀ s, counter (s.enter window) ≤ counter s) :
    counter (store.stateIn key window) ≤ C := by
  unfold QuotaStore.stateIn
  cases hs : store.keys.get? key with
  | none =>
    refine UInt64.le_trans (enter _) ?_
    rw [Option.getD_none, blank]
    exact UInt64.zero_le
  | some s => exact UInt64.le_trans (enter s) (h.counter_le s hs)

/-- A move keeps a counter below the ceiling if entering a window, charging a call and
settling a reservation do, and no larger reservation is given out. -/
theorem KeyMove.below {e : StoreEntry} {s? : Option KeyState} (move : KeyMove key a e a' s?)
    (before : a.Below reserved counter C (e.found.keys.get? key))
    (entered : ∀ window, counter (e.found.stateIn key window) ≤ C)
    (charged : ∀ spec window tokens cost, e.call = .reserve key spec window tokens cost →
      (e.found.stateIn key window).denial? key spec tokens cost = none →
        reserved ⟨key, (e.found.stateIn key window).window, tokens, cost⟩ ≤ C ∧
          counter ((e.found.stateIn key window).charge tokens cost) ≤ C)
    (settled : ∀ r window tokens cost, e.call = .reconcile r window tokens cost → r.key = key →
      counter ((e.found.stateIn key window).settle r tokens cost) ≤ C) :
    a'.Below reserved counter C s? := by
  cases move with
  | rest => exact before
  | refuse _ window => exact ⟨before.allowed_le, by simpa using entered window⟩
  | charge found spec window tokens cost admitted =>
    obtain ⟨small, fits⟩ := charged spec window tokens cost rfl admitted
    refine ⟨?_, by simpa using fits⟩
    intro r mem
    rcases List.mem_append.1 mem with mem | mem
    · exact before.allowed_le r mem
    · rwa [List.mem_singleton.1 mem]
  | settle found r window tokens cost own =>
    exact ⟨before.allowed_le, by simpa using settled r window tokens cost rfl own⟩

end Below

/-! ## Cents -/

theorem KeyState.spentCents_enter (s : KeyState) (window : Int) :
    (s.enter window).spentCents = s.spentCents := by
  unfold enter
  split <;> rfl

theorem BudgetedRun.of_append {key : String} {B : UInt64} {calls later : List StoreCall}
    (h : BudgetedRun key B (calls ++ later)) : BudgetedRun key B calls :=
  fun past call seen => h past call (seen.trans (List.prefix_append _ _))

/-- Cents stay below a budget. -/
theorem BudgetedRun.below {key : String} {B : UInt64} {calls : List StoreCall}
    (budgeted : BudgetedRun key B calls) :
    (accountOf key calls).Below (·.costCents) (·.spentCents) B (countersOf key calls) := by
  induction calls using List.reverseRecOn with
  | nil => exact ⟨by simp [accountOf], by simp [countersOf]⟩
  | append_singleton calls call ih =>
    have before := ih budgeted.of_append
    have last : call.Budgeted key B (accountOf key calls) := budgeted calls call List.prefix_rfl
    have entered := fun window =>
      before.stateIn window rfl fun s => UInt64.le_of_eq (s.spentCents_enter window)
    refine (keyMove_concat key calls call).below before entered ?_ ?_
    · rintro spec window tokens cost rfl admitted
      obtain ⟨b, limit, small⟩ := last rfl
      have within := ((KeyState.denial?_eq_none_iff _ _ _ _ _).1 admitted).2.2 b limit
      have charged := UInt64.le_trans within small
      exact ⟨le_of_satAdd_le charged, charged⟩
    · rintro r window tokens cost rfl own
      obtain ⟨given, small⟩ := last own
      exact satAdd_satSub_le (entered window) (before.allowed_le r given) small

/-! ## Tokens -/

theorem KeyState.tokens_enter_le (s : KeyState) (window : Int) :
    (s.enter window).tokens ≤ s.tokens := by
  unfold enter
  split
  · exact UInt64.zero_le
  · exact UInt64.le_refl _

/-- A settlement may itself enter a later window.  Then the estimate is not taken back, but
the counter starts over. -/
theorem KeyState.tokens_settle_le {s : KeyState} {r : Reservation} {tokens T : UInt64}
    (current : s.window = r.window) (counter : s.tokens ≤ T) (reserved : r.tokens ≤ T)
    (within : tokens ≤ r.tokens) (window : Int) (cost : UInt64) :
    ((s.enter window).settle r tokens cost).tokens ≤ T := by
  unfold enter
  split
  · rename_i later
    have passed : ¬ window = r.window := by omega
    simp only [settle, if_neg passed, UInt64.le_iff_toNat_le, toNat_satAdd,
      UInt64.toNat_zero] at *
    omega
  · simp only [settle, if_pos current]
    exact satAdd_satSub_le counter reserved within

theorem MeteredRun.of_append {key : String} {T : UInt64} {calls later : List StoreCall}
    (h : MeteredRun key T (calls ++ later)) : MeteredRun key T calls :=
  fun past call seen => h past call (seen.trans (List.prefix_append _ _))

/-- Tokens stay below a rate. -/
theorem MeteredRun.below {key : String} {T : UInt64} {calls : List StoreCall}
    (metered : MeteredRun key T calls) :
    (accountOf key calls).Below (·.tokens) (·.tokens) T (countersOf key calls) := by
  induction calls using List.reverseRecOn with
  | nil => exact ⟨by simp [accountOf], by simp [countersOf]⟩
  | append_singleton calls call ih =>
    have before := ih metered.of_append
    have last : call.Metered key T (accountOf key calls) (countersOf key calls) :=
      metered calls call List.prefix_rfl
    have entered := fun window => before.stateIn window rfl fun s => s.tokens_enter_le window
    refine (keyMove_concat key calls call).below before entered ?_ ?_
    · rintro spec window tokens cost rfl admitted
      obtain ⟨t, limit, small⟩ := last rfl
      have within := ((KeyState.denial?_eq_none_iff _ _ _ _ _).1 admitted).2.1 t limit
      have charged := UInt64.le_trans within small
      exact ⟨le_of_satAdd_le charged, charged⟩
    · rintro r window tokens cost rfl own
      obtain ⟨given, small, s, seen, current⟩ := last own
      have found : QuotaStore.stateIn (({} : QuotaStore).run calls) key window = s.enter window := by
        rw [countersOf] at seen
        rw [QuotaStore.stateIn, seen, Option.getD_some]
      simp only [found]
      exact KeyState.tokens_settle_le current (before.counter_le s seen)
        (before.allowed_le r given) small window cost

/-! ## Ceilings -/

/-- **Ceilings over whole histories.**  A key that is kept to a budget never spends more,
and a key that is kept to a token rate never counts more in a window, at no point of a
history: in whatever order its windows come, however often its reservations come back,
and wherever words are clamped. -/
theorem counters_below_ceilings (calls : List StoreCall) (key : String) :
    (∀ B, BudgetedRun key B calls →
        ∀ past, past <+: calls → ∀ s ∈ countersOf key past, s.spentCents ≤ B) ∧
      ∀ T, MeteredRun key T calls →
        ∀ past, past <+: calls → ∀ s ∈ countersOf key past, s.tokens ≤ T := by
  constructor
  · rintro B budgeted past ⟨later, rfl⟩
    exact budgeted.of_append.below.counter_le
  · rintro T metered past ⟨later, rfl⟩
    exact metered.of_append.below.counter_le

/-- A key that is kept to twelve cents and fifty tokens.  Its first reservation comes back
twice, so that the second time the counters hold less than it; its second one comes back
when the window passes. -/
def repeatedCalls : List StoreCall :=
  [.reserve "k" { tokensPerMinute := some 50, budgetCents := some 12 } 5 40 9,
   .reserve "other" .unlimited 9 1 1,
   .reconcile ⟨"k", 5, 40, 9⟩ 5 4 2,
   .reconcile ⟨"k", 5, 40, 9⟩ 3 30 8,
   .reserve "k" { tokensPerMinute := some 45, budgetCents := some 11 } 4 15 3,
   .reserve "k" { tokensPerMinute := some 45, budgetCents := some 12 } 5 10 9,
   .reconcile ⟨"k", 5, 15, 3⟩ 6 15 3]

/-- What holds at each point of a finite history can be looked up point by point. -/
theorem of_forall_inits {P : List StoreCall → StoreCall → Prop} {calls : List StoreCall}
    (each : ∀ row ∈ calls.inits, ∀ call ∈ row.getLast?, P row.dropLast call)
    (past : List StoreCall) (call : StoreCall) (seen : past ++ [call] <+: calls) : P past call := by
  have last := each (past ++ [call]) ((List.mem_inits _ _).2 seen) call (by simp)
  rwa [List.dropLast_concat] at last

theorem counters_below_ceilings_repeated :
    BudgetedRun "k" 12 repeatedCalls ∧ MeteredRun "k" 50 repeatedCalls ∧
      countersOf "k" repeatedCalls = some ⟨6, 0, 15, 11⟩ ∧ (11 : UInt64) ≤ 12 ∧
      (15 : UInt64) ≤ 50 := by
  have budgeted : BudgetedRun "k" 12 repeatedCalls := of_forall_inits (by decide +kernel)
  have metered : MeteredRun "k" 50 repeatedCalls := of_forall_inits (by decide +kernel)
  have counters : countersOf "k" repeatedCalls = some ⟨6, 0, 15, 11⟩ := by decide +kernel
  obtain ⟨cents, tokens⟩ := counters_below_ceilings repeatedCalls "k"
  exact ⟨budgeted, metered, counters,
    cents 12 budgeted repeatedCalls List.prefix_rfl _ counters,
    tokens 50 metered repeatedCalls List.prefix_rfl _ counters⟩

end ChatGateway

import ChatGateway.Proofs.Quota.History

/-!
# The request limit over whole histories

The request counter of a key counts one window, and that window never goes back.
So the counter is never behind the account: while a window is current it shows
every request that was ever admitted in it, and a limit that each admission
respects is respected by their number.

The counter is a machine word that nothing keeps from wrapping when a key is
unlimited, so it is the account modulo `2 ^ 64`; below the largest word the two are
equal.

## Main definitions

* `Account.Current` — an account and counters that agree on windows and requests.
* `LimitedIn` — every request of a window was admitted under a limit.
-/

namespace ChatGateway

/-! ## Windows and the request counter -/

/-- Counters agree with an account on windows and requests: nothing in the account
lies after the current window, and the counter shows the requests of that window. -/
structure Account.Current (a : Account) (s : KeyState) : Prop where
  allowed_le : ∀ r ∈ a.allowed, r.window ≤ s.window
  settled_le : ∀ t ∈ a.settled, t.window ≤ s.window
  requests_eq : s.requests.toNat = a.requestsIn s.window % 2 ^ 64

/-- The same for a key that may not have been seen. -/
def Account.Tracked (a : Account) : Option KeyState → Prop
  | none => a = {}
  | some s => a.Current s

/-- A window after every reservation holds no request. -/
theorem Account.requestsIn_eq_zero {a : Account} {window : Int}
    (h : ∀ r ∈ a.allowed, r.window < window) : a.requestsIn window = 0 := by
  simp only [Account.requestsIn, List.countP_eq_zero, decide_eq_true_eq]
  intro r hr heq
  have := h r hr
  omega

namespace Account.Current

variable {a : Account} {s : KeyState}

theorem enter (h : a.Current s) (window : Int) : a.Current (s.enter window) := by
  unfold KeyState.enter
  split
  · rename_i later
    have before : ∀ r ∈ a.allowed, r.window < window := by
      intro r hr
      have := h.allowed_le r hr
      omega
    constructor
    · exact fun r hr => Int.le_of_lt (before r hr)
    · intro t ht
      have := h.settled_le t ht
      simp only
      omega
    · simp [requestsIn_eq_zero before]
  · exact h

theorem charge (h : a.Current s) (key : String) (tokens cost : UInt64) :
    (a.allow ⟨key, s.window, tokens, cost⟩).Current (s.charge tokens cost) := by
  constructor
  · intro r hr
    simp only [allowed_allow, List.mem_append, List.mem_singleton] at hr
    rcases hr with hr | rfl
    · exact h.allowed_le r hr
    · exact Int.le_refl _
  · exact h.settled_le
  · simp only [KeyState.charge, requestsIn_allow, if_true, UInt64.toNat_add, UInt64.toNat_one,
      h.requests_eq]
    omega

theorem settle (h : a.Current s) (r : Reservation) (tokens cost : UInt64) :
    (a.settle ⟨r, s.window, tokens, cost⟩).Current (s.settle r tokens cost) := by
  constructor
  · exact h.allowed_le
  · intro t ht
    simp only [settled_settle, List.mem_append, List.mem_singleton] at ht
    rcases ht with ht | rfl
    · exact h.settled_le t ht
    · exact Int.le_refl _
  · exact h.requests_eq

end Account.Current

/-- Entering a window keeps counters and account together. -/
theorem Account.Tracked.stateIn {a : Account} {store : QuotaStore} {key : String}
    (h : a.Tracked (store.keys.get? key)) (window : Int) :
    a.Current (store.stateIn key window) := by
  unfold QuotaStore.stateIn
  cases hs : store.keys.get? key with
  | none =>
    rw [hs] at h
    subst h
    refine Account.Current.enter ⟨?_, ?_, ?_⟩ window <;> simp [requestsIn]
  | some s =>
    rw [hs] at h
    exact Account.Current.enter h window

theorem KeyMove.tracked {key : String} {e : StoreEntry} {a a' : Account} {s' : Option KeyState}
    (h : a.Tracked (e.found.keys.get? key)) (move : KeyMove key a e a' s') : a'.Tracked s' := by
  cases move with
  | rest => exact h
  | refuse _ window => exact h.stateIn window
  | charge found spec window tokens cost _ => exact (h.stateIn window).charge key tokens cost
  | settle found r window tokens cost _ => exact (h.stateIn window).settle r tokens cost

/-- After every row of calls the counters of a key agree with its account. -/
theorem tracked (key : String) (calls : List StoreCall) :
    (accountOf key calls).Tracked (countersOf key calls) :=
  run_induction (I := Account.Tracked) rfl (fun _ _ _ _ => KeyMove.tracked) calls

/-! ## Windows never go back -/

theorem KeyState.window_le_enter (s : KeyState) (window : Int) :
    s.window ≤ (s.enter window).window := by
  unfold KeyState.enter
  split
  · simp only
    omega
  · exact Int.le_refl _

/-- A call leaves the window of a key where it was or moves it on. -/
theorem KeyMove.window_le {key : String} {e : StoreEntry} {a a' : Account} {s : KeyState}
    {s'? : Option KeyState} (move : KeyMove key a e a' s'?) (hs : e.found.keys.get? key = some s) :
    ∃ s', s'? = some s' ∧ s.window ≤ s'.window := by
  have entered : ∀ window, s.window ≤ (e.found.stateIn key window).window := by
    intro window
    simpa [QuotaStore.stateIn, hs] using s.window_le_enter window
  cases move with
  | rest => exact ⟨s, hs, Int.le_refl _⟩
  | refuse _ window => exact ⟨_, rfl, entered window⟩
  | charge found spec window tokens cost _ => exact ⟨_, rfl, entered window⟩
  | settle found r window tokens cost _ => exact ⟨_, rfl, entered window⟩

/-- Further calls leave the window of a key where it was or move it on. -/
theorem window_le_of_append {key : String} {calls : List StoreCall} {s : KeyState}
    (hs : countersOf key calls = some s) (later : List StoreCall) :
    ∃ s', countersOf key (calls ++ later) = some s' ∧ s.window ≤ s'.window := by
  induction later using List.reverseRecOn with
  | nil => exact ⟨s, by simpa using hs, Int.le_refl _⟩
  | append_singleton later call ih =>
    obtain ⟨s₁, h₁, le₁⟩ := ih
    obtain ⟨s₂, h₂, le₂⟩ := (keyMove_concat key (calls ++ later) call).window_le h₁
    exact ⟨s₂, by rwa [← List.append_assoc], Int.le_trans le₁ le₂⟩

/-! ## The limit -/

/-- Every request that was admitted to a key in a window was admitted under a limit
of at most `L` requests. -/
def LimitedIn (key : String) (window : Int) (L : UInt64) (calls : List StoreCall) : Prop :=
  ∀ e ∈ ({} : QuotaStore).journal calls, ∀ spec asked tokens cost r,
    e.call = .reserve key spec asked tokens cost →
    (e.found.reserve key spec asked tokens cost).1 = .allow r → r.window = window →
      ∃ l, spec.requestsPerMinute = some l ∧ l ≤ L

theorem LimitedIn.of_append {key : String} {window : Int} {L : UInt64}
    {calls later : List StoreCall} (h : LimitedIn key window L (calls ++ later)) :
    LimitedIn key window L calls := by
  intro e he
  apply h e
  rw [QuotaStore.journal_append]
  exact List.mem_append_left _ he

/-- An admission under a limit finds fewer requests than the limit, as long as the
account of the window is below the largest word. -/
theorem Account.Current.requestsIn_lt {a : Account} {s : KeyState} (h : a.Current s)
    {key : String} {spec : QuotaSpec} {tokens cost l : UInt64}
    (admitted : s.denial? key spec tokens cost = none) (limit : spec.requestsPerMinute = some l)
    (hl : l.toNat < word64Max) (small : a.requestsIn s.window < 2 ^ 64) :
    a.requestsIn s.window + 1 ≤ l.toNat := by
  have within := ((s.denial?_eq_none_iff key spec tokens cost).1 admitted).1 l limit
  have counter := h.requests_eq
  rw [Nat.mod_eq_of_lt small] at counter
  simp only [UInt64.le_iff_toNat_le, toNat_satAdd, UInt64.toNat_one, counter] at within
  omega

/-- A limit that each admission respects is respected by their number. -/
theorem LimitedIn.requestsIn_le {key : String} {window : Int} {L : UInt64}
    (hL : L.toNat < word64Max) {calls : List StoreCall} (limited : LimitedIn key window L calls) :
    (accountOf key calls).requestsIn window ≤ L.toNat := by
  induction calls using List.reverseRecOn with
  | nil => exact Nat.zero_le _
  | append_singleton calls call ih =>
    have before := ih limited.of_append
    have entry := limited ⟨({} : QuotaStore).run calls, call⟩ (by simp)
    have agree := tracked key calls
    have move := keyMove_concat key calls call
    generalize accountOf key (calls ++ [call]) = a' at move ⊢
    generalize countersOf key (calls ++ [call]) = s' at move
    cases move with
    | rest => exact before
    | refuse => exact before
    | settle => exact before
    | charge found spec asked tokens cost admitted =>
      by_cases hw : (QuotaStore.stateIn (({} : QuotaStore).run calls) key asked).window = window
      · obtain ⟨l, limit, hl⟩ :=
          entry spec asked tokens cost _ rfl (by rw [QuotaStore.reserve_of_admitted admitted]) hw
        rw [UInt64.le_iff_toNat_le] at hl
        have current : (accountOf key calls).Current
            (QuotaStore.stateIn (({} : QuotaStore).run calls) key asked) := agree.stateIn asked
        subst hw
        have small : (accountOf key calls).requestsIn
            (QuotaStore.stateIn (({} : QuotaStore).run calls) key asked).window < 2 ^ 64 := by
          simp only [word64Max] at hL
          omega
        have := current.requestsIn_lt admitted limit (by omega) small
        simp only [Account.requestsIn_allow, if_true]
        omega
      · simpa [hw] using before

/-- **The request limit over whole histories.**  However windows and limits change
from call to call: no more requests are admitted in a window than the limit under
which they were admitted; the counter of a current window shows them all, so no
window is entered afresh; and the window of a key never goes back. -/
theorem requests_within_limit (calls : List StoreCall) (key : String) (window : Int) (L : UInt64)
    (hL : L.toNat < word64Max) (limited : LimitedIn key window L calls) :
    (accountOf key calls).requestsIn window ≤ L.toNat ∧
      (∀ s, countersOf key calls = some s → s.window = window →
        s.requests.toNat = (accountOf key calls).requestsIn window) ∧
      ∀ past later s, calls = past ++ later → countersOf key past = some s →
        ∃ s', countersOf key calls = some s' ∧ s.window ≤ s'.window := by
  have bound := limited.requestsIn_le hL
  refine ⟨bound, ?_, ?_⟩
  · intro s hs hw
    have agree := tracked key calls
    rw [hs] at agree
    have counter := Account.Current.requests_eq agree
    rw [hw, Nat.mod_eq_of_lt (by simp only [word64Max] at hL; omega)] at counter
    exact counter
  · intro past later s split hs
    rw [split]
    exact window_le_of_append hs later

/-- Calls of a key in windows that go back, under limits that change. -/
def lateCalls : List StoreCall :=
  [.reserve "k" { requestsPerMinute := some 2 } 5 10 1,
   .reserve "k" { requestsPerMinute := some 1 } 3 10 1,
   .reserve "k" { requestsPerMinute := some 2, tokensPerMinute := some 30 } 4 10 1,
   .reserve "k" .unlimited 6 10 1,
   .reserve "k" .unlimited 5 10 1]

theorem requests_within_limit_late :
    (2 : UInt64).toNat < word64Max ∧ LimitedIn "k" 5 2 lateCalls ∧
      (accountOf "k" lateCalls).requestsIn 5 ≤ 2 := by
  have limited : LimitedIn "k" 5 2 lateCalls := by
    intro e he spec asked tokens cost r call allow window
    simp only [lateCalls, QuotaStore.journal, List.mem_cons, List.not_mem_nil, or_false] at he
    rcases he with rfl | rfl | rfl | rfl | rfl <;>
      simp only [StoreCall.reserve.injEq] at call <;>
      obtain ⟨-, rfl, rfl, rfl, rfl⟩ := call
    · exact ⟨2, rfl, by decide⟩
    · exact ⟨1, rfl, by decide⟩
    · exact ⟨2, rfl, by decide⟩
    -- The last two are admitted in window 6, whatever window they ask for.
    all_goals
      have late : Admission.allow ⟨"k", 6, 10, 1⟩ = .allow r := by
        rw [← allow]
        decide +kernel
      cases late
      exact absurd window (by decide)
  exact ⟨by decide, limited, (requests_within_limit lateCalls "k" 5 2 (by decide) limited).1⟩

end ChatGateway

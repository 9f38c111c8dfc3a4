import ChatGateway.Proofs.Quota.Accounting
import ChatGateway.Proofs.Quota.Ceilings

/-!
# What a refund leaves to others

While reservations are held, the counters of their key should show at least their estimates,
whatever happens to other reservations of the key.  A charge keeps to this, also where a word
cannot show the sum.  But a settlement takes its whole estimate back from a counter that may have
been clamped, and with it what was counted for others.

It does so in one case only: when it takes back more than it puts in, while what is held exceeds
what it puts in by more than a word.  A row of calls without such a settlement keeps what is held
covered at every point, and one with such a settlement does not.

## Main definitions

* `Stake` — the two figures of a reservation, and where they are counted.
* `CoveredRun` — at every point, the counters show what is held.
* `BackedRun` — no settlement takes back what a clamped counter owes to others.
-/

namespace ChatGateway

/-! ## Figures that are held -/

/-- A figure that a reservation holds until it is settled. -/
inductive Stake where
  | tokens
  | cents
  deriving DecidableEq

namespace Stake

/-- What a reservation holds while a window is current. -/
def reserved (stake : Stake) (window : Int) (r : Reservation) : Nat :=
  match stake with
  | tokens => r.tokensIn window
  | cents => r.costCents.toNat

/-- What a settlement puts in its place. -/
def used (stake : Stake) (tokens cost : UInt64) : Nat :=
  match stake with
  | .tokens => tokens.toNat
  | .cents => cost.toNat

/-- What the counters of a key show. -/
def shown (stake : Stake) (s : KeyState) : Nat :=
  match stake with
  | tokens => s.tokens.toNat
  | cents => s.spentCents.toNat

theorem shown_le (stake : Stake) (s : KeyState) : stake.shown s ≤ word64Max := by
  cases stake <;> exact toNat_le_word64Max _

theorem reserved_le (stake : Stake) (window : Int) (r : Reservation) :
    stake.reserved window r ≤ word64Max := by
  cases stake with
  | cents => exact toNat_le_word64Max _
  | tokens =>
    simp only [reserved, Reservation.tokensIn]
    split
    · exact toNat_le_word64Max _
    · exact Nat.zero_le _

/-- A charge adds the estimate and clamps. -/
theorem shown_charge (stake : Stake) (s : KeyState) (key : String) (tokens cost : UInt64) :
    stake.shown (s.charge tokens cost) =
      min (stake.shown s + stake.reserved s.window ⟨key, s.window, tokens, cost⟩) word64Max := by
  cases stake <;> simp [shown, reserved, KeyState.charge, Reservation.tokensIn]

/-- A settlement takes the estimate back, as far as the counter goes, and adds what was used.
Tokens of a window that has passed count for nothing there. -/
theorem shown_settle (stake : Stake) (s : KeyState) (r : Reservation) (tokens cost : UInt64) :
    stake.shown (s.settle r tokens cost) =
      min (stake.shown s - stake.reserved s.window r + stake.used tokens cost) word64Max := by
  cases stake with
  | cents => simp [shown, reserved, used, KeyState.settle]
  | tokens =>
    by_cases current : s.window = r.window
    · simp [shown, reserved, used, KeyState.settle, Reservation.tokensIn, current]
    · simp [shown, reserved, used, KeyState.settle, Reservation.tokensIn, current, Ne.symm current]

end Stake

/-! ## Counters that cover what is held -/

namespace Account

/-- What the reservations of a key hold in a window. -/
def stakes (a : Account) (stake : Stake) (window : Int) : Nat :=
  a.held (stake.reserved window)

/-- The counters show what is held, as far as a word can. -/
def Covered (stake : Stake) (a : Account) (s : KeyState) : Prop :=
  min (a.stakes stake s.window) word64Max ≤ stake.shown s

/-- A settlement leaves what others hold: it takes back no more than it puts in, or what is held
exceeds what it puts in by at most a word. -/
def Backs (stake : Stake) (a : Account) (s : KeyState) (r : Reservation) (tokens cost : UInt64) :
    Prop :=
  stake.reserved s.window r ≤ stake.used tokens cost ∨
    a.stakes stake s.window ≤ word64Max + stake.used tokens cost

instance (stake : Stake) (a : Account) (s : KeyState) (r : Reservation) (tokens cost : UInt64) :
    Decidable (a.Backs stake s r tokens cost) :=
  inferInstanceAs (Decidable (_ ∨ _))

/-- A window after every reservation holds no tokens; cents are held in every window alike. -/
theorem stakes_of_later {a : Account} {s : KeyState} (current : a.Current s) {window : Int}
    (later : s.window < window) (stake : Stake) :
    a.stakes stake window = match stake with
      | .tokens => 0
      | .cents => a.stakes .cents s.window := by
  cases stake with
  | cents => rfl
  | tokens =>
    have none : a.tokensIn window = 0 := tokensIn_eq_zero
      (fun r hr => Int.lt_of_le_of_lt (current.allowed_le r hr) later)
      (fun t ht => Int.lt_of_le_of_lt (current.settled_le t ht) later)
    exact Nat.eq_zero_of_add_eq_zero_right none

namespace Covered

variable {stake : Stake} {a : Account} {s : KeyState}

theorem enter (h : a.Covered stake s) (current : a.Current s) (window : Int) :
    a.Covered stake (s.enter window) := by
  unfold KeyState.enter
  split
  · rename_i later
    unfold Covered at h ⊢
    rw [stakes_of_later current later]
    cases stake with
    | tokens => exact Nat.zero_le _
    | cents => exact h
  · exact h

/-- A charge keeps to what is held, clamped or not. -/
theorem charge (h : a.Covered stake s) (honest : a.Honest) (key : String) (tokens cost : UInt64) :
    (a.allow ⟨key, s.window, tokens, cost⟩).Covered stake (s.charge tokens cost) := by
  have grown : (a.allow ⟨key, s.window, tokens, cost⟩).stakes stake s.window =
      a.stakes stake s.window + stake.reserved s.window ⟨key, s.window, tokens, cost⟩ :=
    held_allow honest _ _
  unfold Covered at h ⊢
  rw [stake.shown_charge s key]
  simp only [KeyState.charge, grown]
  omega

/-- A settlement keeps to it in the one case and not in the other. -/
theorem settle_iff (h : a.Covered stake s) (r : Reservation) (tokens cost : UInt64)
    (honest : (a.settle ⟨r, s.window, tokens, cost⟩).Honest) :
    (a.settle ⟨r, s.window, tokens, cost⟩).Covered stake (s.settle r tokens cost) ↔
      a.Backs stake s r tokens cost := by
  have shrunk : (a.settle ⟨r, s.window, tokens, cost⟩).stakes stake s.window +
      stake.reserved s.window r = a.stakes stake s.window :=
    held_settle honest _
  have small := stake.shown_le s
  have fits := stake.reserved_le s.window r
  unfold Covered at h ⊢
  rw [stake.shown_settle]
  simp only [Backs, KeyState.settle]
  omega

/-- Entering a window keeps what is held covered, also for a key that was not seen. -/
theorem stateIn {store : QuotaStore} {key : String}
    (h : ∀ s ∈ store.keys.get? key, a.Covered stake s) (agree : a.Tracked (store.keys.get? key))
    (window : Int) : a.Covered stake (store.stateIn key window) := by
  unfold QuotaStore.stateIn
  cases hs : store.keys.get? key with
  | none =>
    rw [hs] at agree
    subst agree
    refine enter ?_ ?_ window
    · exact Nat.le_trans (Nat.min_le_left _ _) (Nat.zero_le _)
    · constructor <;> simp [requestsIn]
  | some s =>
    rw [hs] at agree
    exact enter (h s hs) agree window

end Covered

end Account

/-! ## Whole histories -/

/-- A settlement of a key leaves what the other reservations of the key hold. -/
def StoreCall.Backed (stake : Stake) (key : String) (found : QuotaStore) (a : Account) :
    StoreCall → Prop
  | .reconcile r window tokens cost =>
    r.key = key → a.Backs stake (found.stateIn key window) r tokens cost
  | .reserve .. => True
  | .usage .. => True

instance (stake : Stake) (key : String) (found : QuotaStore) (a : Account) (call : StoreCall) :
    Decidable (call.Backed stake key found a) :=
  match call with
  | .reconcile r window tokens cost => inferInstanceAs (Decidable
      (r.key = key → a.Backs stake (found.stateIn key window) r tokens cost))
  | .reserve .. => inferInstanceAs (Decidable True)
  | .usage .. => inferInstanceAs (Decidable True)

/-- Every settlement of a key leaves what the other reservations of the key hold. -/
def BackedRun (stake : Stake) (key : String) (calls : List StoreCall) : Prop :=
  ∀ past call, past ++ [call] <+: calls →
    call.Backed stake key (({} : QuotaStore).run past) (accountOf key past)

/-- At every point, the counters of a key show what its reservations hold. -/
def CoveredRun (stake : Stake) (key : String) (calls : List StoreCall) : Prop :=
  ∀ past, past <+: calls → ∀ s ∈ countersOf key past, (accountOf key past).Covered stake s

/-- A move of an honest account keeps what is held covered, if it is no settlement that takes
from others. -/
theorem KeyMove.covered {stake : Stake} {key : String} {e : StoreEntry} {a a' : Account}
    {s? : Option KeyState} (move : KeyMove key a e a' s?)
    (h : ∀ s ∈ e.found.keys.get? key, a.Covered stake s)
    (agree : a.Tracked (e.found.keys.get? key)) (before : a.Honest) (honest : a'.Honest)
    (backed : e.call.Backed stake key e.found a) : ∀ s ∈ s?, a'.Covered stake s := by
  have entered := fun window => Account.Covered.stateIn h agree window
  cases move with
  | rest => exact h
  | refuse _ window => simpa using entered window
  | charge found spec window tokens cost _ =>
    simpa using (entered window).charge before key tokens cost
  | settle found r window tokens cost own =>
    simpa using ((entered window).settle_iff r tokens cost honest).2 (backed own)

theorem CoveredRun.of_backed {stake : Stake} {key : String} {calls : List StoreCall}
    (honest : HonestRun key calls) (backed : BackedRun stake key calls) :
    CoveredRun stake key calls := by
  intro past seen
  induction past using List.reverseRecOn with
  | nil => simp [countersOf]
  | append_singleton past call ih =>
    have earlier : past <+: calls := (List.prefix_append past [call]).trans seen
    exact (keyMove_concat key past call).covered (ih earlier) (tracked key past)
      (honest past earlier) (honest _ seen) (backed past call seen)

theorem BackedRun.of_covered {stake : Stake} {key : String} {calls : List StoreCall}
    (honest : HonestRun key calls) (covered : CoveredRun stake key calls) :
    BackedRun stake key calls := by
  intro past call seen
  cases call with
  | reserve => trivial
  | usage => trivial
  | reconcile r window tokens cost =>
    intro own
    have earlier : past <+: calls := (List.prefix_append past _).trans seen
    have entered := Account.Covered.stateIn (covered past earlier) (tracked key past) window
    have after := covered _ seen
    have settled := honest _ seen
    rw [accountOf_concat] at after settled
    simp only [StoreEntry.book, if_pos own] at after settled
    refine (entered.settle_iff r tokens cost settled).1 (after _ ?_)
    subst own
    simp [countersOf, QuotaStore.after, QuotaStore.reconcile]

/-- **What is held stays covered exactly as long as refunds are backed.**  When the
reservations of a key come back at most once each, its counters show at every point what is
held, as far as a word can, if and only if no settlement takes back more than it puts in while
what is held exceeds what it puts in by more than a word.  This is so for tokens and for cents,
each by itself. -/
theorem covered_iff_backed (key : String) (calls : List StoreCall) (honest : HonestRun key calls)
    (stake : Stake) : CoveredRun stake key calls ↔ BackedRun stake key calls :=
  ⟨BackedRun.of_covered honest, CoveredRun.of_backed honest⟩

/-- Whether a finite history is honest can be looked up point by point. -/
theorem HonestRun.of_inits {key : String} {calls : List StoreCall}
    (each : ∀ past ∈ calls.inits, (accountOf key past).Honest) : HonestRun key calls :=
  fun past seen => each past ((List.mem_inits _ _).2 seen)

/-- Reservations of which the first fills a word.  The next comes back for more than it held, and
the first for little, but in a later window and for more cents than the last one holds. -/
def crowdedCalls : List StoreCall :=
  [.reserve "k" .unlimited 1 18446744073709551615 18446744073709551615,
   .reserve "other" { budgetCents := some 1 } 1 1 1,
   .reserve "k" .unlimited 1 7 5,
   .reconcile ⟨"k", 1, 7, 5⟩ 1 9 5,
   .reserve "k" { requestsPerMinute := some 3 } 1 20 6,
   .reconcile ⟨"k", 1, 18446744073709551615, 18446744073709551615⟩ 2 3 8]

theorem covered_iff_backed_crowded :
    HonestRun "k" crowdedCalls ∧ (∀ stake, BackedRun stake "k" crowdedCalls) ∧
      countersOf "k" crowdedCalls = some ⟨2, 0, 3, 8⟩ ∧
      (accountOf "k" crowdedCalls).stakes .cents 2 = 6 ∧
      ∀ stake, CoveredRun stake "k" crowdedCalls := by
  have honest : HonestRun "k" crowdedCalls := .of_inits (by decide +kernel)
  have backed : ∀ stake, BackedRun stake "k" crowdedCalls := by
    intro stake
    cases stake <;> exact of_forall_inits (by decide +kernel)
  exact ⟨honest, backed, by decide +kernel, by decide +kernel,
    fun stake => (covered_iff_backed "k" crowdedCalls honest stake).2 (backed stake)⟩

/-- Two reservations of which the first fills a word.  It comes back without having used
anything, while the second is still held. -/
def clampedCalls : List StoreCall :=
  [.reserve "k" .unlimited 1 18446744073709551615 18446744073709551615,
   .reserve "k" .unlimited 1 7 5,
   .reconcile ⟨"k", 1, 18446744073709551615, 18446744073709551615⟩ 1 0 0]

/-- The refund of the first reservation takes away all that was counted for the second. -/
theorem clamped_refund_uncovers :
    HonestRun "k" clampedCalls ∧ countersOf "k" clampedCalls = some ⟨1, 2, 0, 0⟩ ∧
      (accountOf "k" clampedCalls).stakes .tokens 1 = 7 ∧
      (accountOf "k" clampedCalls).stakes .cents 1 = 5 ∧
      ∀ stake, ¬ CoveredRun stake "k" clampedCalls := by
  have honest : HonestRun "k" clampedCalls := .of_inits (by decide +kernel)
  have counters : countersOf "k" clampedCalls = some ⟨1, 2, 0, 0⟩ := by decide +kernel
  have tokens : (accountOf "k" clampedCalls).stakes .tokens 1 = 7 := by decide +kernel
  have cents : (accountOf "k" clampedCalls).stakes .cents 1 = 5 := by decide +kernel
  refine ⟨honest, counters, tokens, cents, fun stake covered => ?_⟩
  have last := covered clampedCalls List.prefix_rfl _ counters
  cases stake
  · rw [Account.Covered, tokens] at last
    exact absurd last (by decide)
  · rw [Account.Covered, cents] at last
    exact absurd last (by decide)

end ChatGateway

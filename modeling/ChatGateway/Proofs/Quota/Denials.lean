import ChatGateway.Proofs.Quota.Answers

/-!
# Refusals leave no trace

A call that is denied charges nothing, but it does write: it makes counters for a key that was
never seen, and enters its window, which starts the rates over.  No later call can tell, as long
as the key is not asked about in an earlier window.  For a later call enters its own window
first, and what it finds there is the same by way of the window of the refusal or without it; a
key that was never seen and one with counters at zero differ in a read only.

## Main definitions

* `QuotaStore.AlikeFrom` — stores that differ in a window of one key that has been entered.
* `StoreEntry.Echoes` — two entries with the same call, told the same.
-/

namespace ChatGateway

/-- Two stores that no call can tell apart but by reading that a key was never seen: they agree
on all other keys, and on this key from a window onward. -/
structure QuotaStore.AlikeFrom (key : String) (window : Int) (a b : QuotaStore) : Prop where
  others : ∀ k, k ≠ key → b.keys.get? k = a.keys.get? k
  onward : ∀ later, window ≤ later → b.stateIn key later = a.stateIn key later
  seen : b.keys.get? key = none → a.keys.get? key = none

/-- Two entries of the same call, of which the second is told the same as the first.  But a read
of a key that was never seen may be shown zeros instead of nothing. -/
def StoreEntry.Echoes (key : String) (e e' : StoreEntry) : Prop :=
  e'.call = e.call ∧
    (e'.answer = e.answer ∨
      e.found.keys.get? key = none ∧ (∃ window, e.call = .usage key window) ∧
        e.answer = .figures none ∧ e'.answer = .figures (some {}))

namespace QuotaStore

/-- A key that has entered a window, and then enters a later one, is where it would be without
the first. -/
theorem stateIn_put_stateIn (store : QuotaStore) (key : String) {window later : Int}
    (h : window ≤ later) :
    (store.put key (store.stateIn key window)).stateIn key later = store.stateIn key later := by
  simp only [stateIn, get?_put, if_true, Option.getD_some, KeyState.enter_enter _ h]
  cases store.keys.get? key with
  | some s => rfl
  | none =>
    simp only [Option.getD_none, KeyState.enter, Int.lt_irrefl, if_false]
    split
    · rfl
    · rw [Int.le_antisymm h (by omega)]

/-- A refusal leaves a store that is alike from its window onward. -/
theorem AlikeFrom.of_denied {store : QuotaStore} {key : String} {spec : QuotaSpec} {window : Int}
    {tokens cost : UInt64} {d : Denial}
    (denied : (store.reserve key spec window tokens cost).1 = .deny d) :
    store.AlikeFrom key window (store.reserve key spec window tokens cost).2 := by
  cases h : (store.stateIn key window).denial? key spec tokens cost with
  | none =>
    rw [reserve_of_admitted h] at denied
    cases denied
  | some d' =>
    rw [reserve_of_denied h]
    constructor
    · intro k other
      rw [get?_put, if_neg other]
    · intro later onward
      exact store.stateIn_put_stateIn key onward
    · intro unseen
      simp at unseen

namespace AlikeFrom

variable {key : String} {window : Int} {a b : QuotaStore}

theorem stateIn (h : AlikeFrom key window a b) {k : String} {later : Int}
    (onward : k = key → window ≤ later) : b.stateIn k later = a.stateIn k later := by
  by_cases own : k = key
  · subst own
    exact h.onward later (onward rfl)
  · exact stateIn_congr (h.others k own) later

/-- The same counters, kept for the same key, leave the stores alike. -/
theorem put (h : AlikeFrom key window a b) (k : String) (s : KeyState) :
    AlikeFrom key window (a.put k s) (b.put k s) := by
  constructor
  · intro k' other
    simp only [get?_put, h.others k' other]
  · intro later onward
    by_cases own : key = k
    · subst own
      exact stateIn_congr (by simp) later
    · have found := h.onward later onward
      rwa [← stateIn_congr (a := a) (b := a.put k s) (by simp [own]),
        ← stateIn_congr (a := b) (b := b.put k s) (by simp [own])] at found
  · intro unseen
    by_cases own : key = k
    · simp [own] at unseen
    · simp only [get?_put, if_neg own] at unseen ⊢
      exact h.seen unseen

/-- A read is shown the same, or zeros instead of nothing. -/
theorem usage? (h : AlikeFrom key window a b) {k : String} {later : Int}
    (onward : k = key → window ≤ later) :
    b.usage? k later = a.usage? k later ∨
      k = key ∧ a.keys.get? key = none ∧ a.usage? k later = none ∧
        b.usage? k later = some {} := by
  have found := h.stateIn onward
  by_cases own : k = key
  · subst own
    rw [b.usage?_eq, a.usage?_eq, found]
    cases hb : b.keys.get? k with
    | none => exact .inl (by rw [h.seen hb])
    | some s =>
      cases ha : a.keys.get? k with
      | some s' => exact .inl rfl
      | none =>
        have zeros := a.getD_usage? k later
        rw [usage?_eq, ha] at zeros
        exact .inr ⟨rfl, rfl, rfl, congrArg some zeros.symm⟩
  · rw [b.usage?_eq, a.usage?_eq, found, h.others k own]
    exact .inl rfl

/-- A call is told the same by both, and leaves them alike. -/
theorem step (h : AlikeFrom key window a b) {call : StoreCall}
    (onward : call.key = key → window ≤ call.window) :
    StoreEntry.Echoes key ⟨a, call⟩ ⟨b, call⟩ ∧
      AlikeFrom key window (a.after call) (b.after call) := by
  cases reads : call.isRead with
  | false =>
    obtain ⟨told, s, left, left'⟩ := told_alike reads (h.stateIn onward)
    refine ⟨⟨rfl, .inl told⟩, ?_⟩
    rw [left, left']
    exact h.put call.key s
  | true =>
    rw [a.after_of_isRead reads, b.after_of_isRead reads]
    refine ⟨⟨rfl, ?_⟩, h⟩
    cases call with
    | reserve => cases reads
    | reconcile => cases reads
    | usage k later =>
      rcases h.usage? (k := k) onward with same | ⟨rfl, unseen, nothing, zeros⟩
      · exact .inl (congrArg StoreAnswer.figures same)
      · exact .inr ⟨unseen, ⟨later, rfl⟩, congrArg StoreAnswer.figures nothing,
          congrArg StoreAnswer.figures zeros⟩

/-- A row of calls is told the same by both. -/
theorem journal (h : AlikeFrom key window a b) (later : List StoreCall)
    (onward : ∀ call ∈ later, call.key = key → window ≤ call.window) :
    List.Forall₂ (StoreEntry.Echoes key) (a.journal later) (b.journal later) := by
  induction later generalizing a b with
  | nil => exact .nil
  | cons call later ih =>
    obtain ⟨echo, after⟩ := h.step (onward call List.mem_cons_self)
    exact .cons echo (ih after fun c mem => onward c (List.mem_cons_of_mem _ mem))

end AlikeFrom

end QuotaStore

/-- **A refusal leaves no trace.**  Whatever state a store is in: when a call is denied, every
later row of calls, which asks about the key of the refusal in its window or later ones only, is
told what it would be told without the denied call.  But a read of the key may be shown zeros
where without the denied call the key was never seen. -/
theorem denial_leaves_no_trace (store : QuotaStore) (key : String) (spec : QuotaSpec)
    (window : Int) (tokens cost : UInt64) (d : Denial)
    (denied : (store.reserve key spec window tokens cost).1 = .deny d) (later : List StoreCall)
    (onward : ∀ call ∈ later, call.key = key → window ≤ call.window) :
    List.Forall₂ (StoreEntry.Echoes key) (store.journal later)
      ((store.reserve key spec window tokens cost).2.journal later) :=
  (QuotaStore.AlikeFrom.of_denied denied).journal later onward

/-- A store in which a call of window 5 is not settled yet. -/
def waitingStore : QuotaStore :=
  ({} : QuotaStore).run [.reserve "k" .unlimited 5 20 9]

/-- Calls after a refusal in window 7: the call of window 5 is settled, and the key goes on. -/
def callsOnward : List StoreCall :=
  [.usage "k" 7,
   .reconcile ⟨"k", 5, 20, 9⟩ 7 25 7,
   .reserve "other" .unlimited 2 1 1,
   .reserve "k" { tokensPerMinute := some 30 } 7 10 1,
   .reserve "k" { tokensPerMinute := some 30 } 8 10 1,
   .usage "k" 8]

theorem denial_leaves_no_trace_waiting :
    (waitingStore.reserve "k" { tokensPerMinute := some 5 } 7 10 1).1 =
        .deny ⟨"k", .tokens, 5, 0, 10⟩ ∧
      (∀ call ∈ callsOnward, call.key = "k" → 7 ≤ call.window) ∧
      List.Forall₂ (StoreEntry.Echoes "k") (waitingStore.journal callsOnward)
        ((waitingStore.reserve "k" { tokensPerMinute := some 5 } 7 10 1).2.journal callsOnward) := by
  have denied : (waitingStore.reserve "k" { tokensPerMinute := some 5 } 7 10 1).1 =
      .deny ⟨"k", .tokens, 5, 0, 10⟩ := by decide +kernel
  have onward : ∀ call ∈ callsOnward, call.key = "k" → 7 ≤ call.window := by decide
  exact ⟨denied, onward,
    denial_leaves_no_trace waitingStore "k" { tokensPerMinute := some 5 } 7 10 1 _ denied
      callsOnward onward⟩

end ChatGateway

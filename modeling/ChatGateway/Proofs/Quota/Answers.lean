import ChatGateway.Proofs.Quota.Readings

/-!
# What calls of a store are told

All that a caller learns of a store is what its calls are told.  A call looks at one key only, and
at the counters of that key only as they are on entering the window of the call.  So two stores
that agree on these tell the call the same, and are left by it with the same counters of the key.

## Main definitions

* `StoreAnswer`, `QuotaStore.answer`, `StoreEntry.answer` — what a call is told.
* `StoreCall.key`, `StoreCall.window` — what a call looks at.
* `QuotaStore.told_alike` — calls that write, on two stores.
-/

namespace ChatGateway

/-- What a call of a store is told. -/
inductive StoreAnswer where
  | admission (a : Admission)
  | settled
  | figures (u? : Option QuotaUsage)
  deriving DecidableEq

namespace StoreCall

/-- The key of a call.  A settlement names it by its reservation. -/
def key : StoreCall → String
  | .reserve key _ _ _ _ => key
  | .reconcile r _ _ _ => r.key
  | .usage key _ => key

/-- The window of a call. -/
def window : StoreCall → Int
  | .reserve _ _ window _ _ => window
  | .reconcile _ window _ _ => window
  | .usage _ window => window

/-- Whether a call only reads. -/
def isRead : StoreCall → Bool
  | .usage _ _ => true
  | _ => false

end StoreCall

namespace QuotaStore

/-- What a call is told. -/
def answer (store : QuotaStore) : StoreCall → StoreAnswer
  | .reserve key spec window tokens cost =>
    .admission (store.reserve key spec window tokens cost).1
  | .reconcile _ _ _ _ => .settled
  | .usage key window => .figures (store.usage? key window)

/-- A call that reads leaves the store as it was. -/
theorem after_of_isRead (store : QuotaStore) {call : StoreCall} (reads : call.isRead) :
    store.after call = store := by
  cases call with
  | usage => rfl
  | reserve => cases reads
  | reconcile => cases reads

/-- A call that writes is told the same by two stores that agree on the counters of its key on
entering its window, and leaves the same counters in both. -/
theorem told_alike {a b : QuotaStore} {call : StoreCall} (writes : call.isRead = false)
    (same : b.stateIn call.key call.window = a.stateIn call.key call.window) :
    b.answer call = a.answer call ∧
      ∃ s, a.after call = a.put call.key s ∧ b.after call = b.put call.key s := by
  cases call with
  | usage => cases writes
  | reconcile r window tokens cost =>
    have found : b.stateIn r.key window = a.stateIn r.key window := same
    refine ⟨rfl, _, rfl, ?_⟩
    simp only [after, reconcile, found, StoreCall.key]
  | reserve key spec window tokens cost =>
    have found : b.stateIn key window = a.stateIn key window := same
    simp only [answer, after, reserve, found, StoreCall.key]
    cases (a.stateIn key window).denial? key spec tokens cost with
    | none => exact ⟨rfl, _, rfl, rfl⟩
    | some d => exact ⟨rfl, _, rfl, rfl⟩

/-- The counters on entering a window are a matter of what is kept for the key. -/
theorem stateIn_congr {a b : QuotaStore} {key : String} (same : b.keys.get? key = a.keys.get? key)
    (window : Int) : b.stateIn key window = a.stateIn key window := by
  rw [stateIn, stateIn, same]

/-- A call leaves every other key as it was. -/
theorem get?_after_of_ne (store : QuotaStore) {call : StoreCall} {key : String}
    (other : call.key ≠ key) : (store.after call).keys.get? key = store.keys.get? key := by
  cases h : call.isRead with
  | true => rw [store.after_of_isRead h]
  | false =>
    obtain ⟨-, s, left, -⟩ := told_alike (a := store) h rfl
    rw [left, get?_put, if_neg (Ne.symm other)]

/-- A call is told the same by two stores that keep the same for its key, and leaves both so. -/
theorem told_of_get? {a b : QuotaStore} {call : StoreCall}
    (same : b.keys.get? call.key = a.keys.get? call.key) :
    b.answer call = a.answer call ∧
      (b.after call).keys.get? call.key = (a.after call).keys.get? call.key := by
  cases reads : call.isRead with
  | false =>
    obtain ⟨told, s, left, left'⟩ := told_alike reads (stateIn_congr same call.window)
    exact ⟨told, by rw [left, left', get?_put, get?_put, if_pos rfl, if_pos rfl]⟩
  | true =>
    rw [a.after_of_isRead reads, b.after_of_isRead reads]
    refine ⟨?_, same⟩
    cases call with
    | reserve => cases reads
    | reconcile => cases reads
    | usage key window =>
      have found : b.keys.get? key = a.keys.get? key := same
      simp only [answer, usage?, found]

end QuotaStore

/-- What the call of an entry is told. -/
def StoreEntry.answer (e : StoreEntry) : StoreAnswer :=
  e.found.answer e.call

end ChatGateway

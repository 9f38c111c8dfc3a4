import ChatGateway.Quota.Store
import Mathlib.Algebra.GroupWithZero.Nat
import Mathlib.Data.List.Induction
import Mathlib.Data.Multiset.AddSub

/-!
# Histories of a quota store

A store is called over and over, by callers that do not know of each other.  Its
history is the row of those calls, each together with the store that it found.
Windows come with the calls and need not ascend; reservations come back in any
order, late, or not at all.

What a history says about one key is kept in an account, which is exact: nothing
in it is clamped, reset or taken back.  `KeyMove` lists all that one call can do to
the counters and the account of one key, and every statement about whole runs is an
induction over it.

## Main definitions

* `StoreCall`, `QuotaStore.run`, `QuotaStore.journal` — calls, the store after
  them, and the entries they leave.
* `Account`, `accountOf` — what was allowed to a key and what was settled.
* `KeyMove` — what a call can do to one key.
* `run_induction` — what holds of an unseen key and survives every move, holds
  after every row of calls.
-/

namespace ChatGateway

/-- A call of a store. -/
inductive StoreCall where
  | reserve (key : String) (spec : QuotaSpec) (window : Int) (tokens cost : UInt64)
  | reconcile (r : Reservation) (window : Int) (tokens cost : UInt64)
  | usage (key : String) (window : Int)

/-- A call together with the store that it found. -/
structure StoreEntry where
  found : QuotaStore
  call : StoreCall

namespace QuotaStore

/-- The store after a call. -/
def after (store : QuotaStore) : StoreCall → QuotaStore
  | .reserve key spec window tokens cost => (store.reserve key spec window tokens cost).2
  | .reconcile r window tokens cost => store.reconcile r window tokens cost
  | .usage _ _ => store

/-- The store after a row of calls. -/
def run (store : QuotaStore) (calls : List StoreCall) : QuotaStore :=
  calls.foldl after store

/-- The entries of a row of calls, in order. -/
def journal (store : QuotaStore) : List StoreCall → List StoreEntry
  | [] => []
  | call :: calls => ⟨store, call⟩ :: journal (store.after call) calls

@[simp] theorem run_nil (store : QuotaStore) : store.run [] = store := rfl

@[simp] theorem run_concat (store : QuotaStore) (calls : List StoreCall) (call : StoreCall) :
    store.run (calls ++ [call]) = (store.run calls).after call := by
  simp [run]

@[simp] theorem journal_nil (store : QuotaStore) : store.journal [] = [] := rfl

theorem journal_append (store : QuotaStore) (calls later : List StoreCall) :
    store.journal (calls ++ later) = store.journal calls ++ (store.run calls).journal later := by
  induction calls generalizing store with
  | nil => rfl
  | cons call calls ih =>
    simp only [List.cons_append, journal, ih]
    rfl

@[simp] theorem journal_concat (store : QuotaStore) (calls : List StoreCall) (call : StoreCall) :
    store.journal (calls ++ [call]) = store.journal calls ++ [⟨store.run calls, call⟩] :=
  journal_append store calls [call]

end QuotaStore

/-! ## Accounts -/

/-- A reservation that was settled. -/
structure Settlement where
  reservation : Reservation
  /-- The window of the key that was current then. -/
  window : Int
  /-- What the call consumed. -/
  tokens : UInt64
  costCents : UInt64

/-- What a history says about one key: the reservations that were given out and
those that were settled, in order. -/
structure Account where
  allowed : List Reservation := []
  settled : List Settlement := []

namespace Account

/-- A further reservation is given out. -/
def allow (a : Account) (r : Reservation) : Account :=
  { a with allowed := a.allowed ++ [r] }

/-- A further reservation is settled. -/
def settle (a : Account) (t : Settlement) : Account :=
  { a with settled := a.settled ++ [t] }

/-- The reservations of a window. -/
def requestsIn (a : Account) (window : Int) : Nat :=
  a.allowed.countP fun r => r.window = window

@[simp] theorem allowed_allow (a : Account) (r : Reservation) :
    (a.allow r).allowed = a.allowed ++ [r] := rfl

@[simp] theorem settled_allow (a : Account) (r : Reservation) :
    (a.allow r).settled = a.settled := rfl

@[simp] theorem allowed_settle (a : Account) (t : Settlement) :
    (a.settle t).allowed = a.allowed := rfl

@[simp] theorem settled_settle (a : Account) (t : Settlement) :
    (a.settle t).settled = a.settled ++ [t] := rfl

@[simp] theorem requestsIn_allow (a : Account) (r : Reservation) (window : Int) :
    (a.allow r).requestsIn window = a.requestsIn window + if r.window = window then 1 else 0 := by
  simp [requestsIn, List.countP_append, List.countP_cons]

@[simp] theorem requestsIn_settle (a : Account) (t : Settlement) (window : Int) :
    (a.settle t).requestsIn window = a.requestsIn window := rfl

end Account

/-- Write an entry into the account of a key.  A refusal and a read leave no
trace. -/
def StoreEntry.book (e : StoreEntry) (key : String) (a : Account) : Account :=
  match e.call with
  | .reserve key' spec window tokens cost =>
    if key' = key then
      match (e.found.reserve key' spec window tokens cost).1 with
      | .allow r => a.allow r
      | .deny _ => a
    else a
  | .reconcile r window tokens cost =>
    if r.key = key then a.settle ⟨r, (e.found.stateIn key window).window, tokens, cost⟩ else a
  | .usage _ _ => a

/-- The account of a key after a row of calls of a new store. -/
def accountOf (key : String) (calls : List StoreCall) : Account :=
  (({} : QuotaStore).journal calls).foldl (fun a e => e.book key a) {}

/-- The counters of a key after a row of calls of a new store. -/
def countersOf (key : String) (calls : List StoreCall) : Option KeyState :=
  (({} : QuotaStore).run calls).keys.get? key

theorem accountOf_concat (key : String) (calls : List StoreCall) (call : StoreCall) :
    accountOf key (calls ++ [call]) =
      (StoreEntry.mk (({} : QuotaStore).run calls) call).book key (accountOf key calls) := by
  simp [accountOf]

/-! ## One call, one key -/

/-- All that a call can do to a key: its account and its counters afterwards, given
its account before. -/
inductive KeyMove (key : String) (a : Account) : StoreEntry → Account → Option KeyState → Prop
  /-- The call is about another key, or reads. -/
  | rest (e : StoreEntry) : KeyMove key a e a (e.found.keys.get? key)
  /-- The call is refused, but its window is entered. -/
  | refuse (e : StoreEntry) (window : Int) :
    KeyMove key a e a (some (e.found.stateIn key window))
  /-- The call is admitted and charged. -/
  | charge (found : QuotaStore) (spec : QuotaSpec) (window : Int) (tokens cost : UInt64)
    (admitted : (found.stateIn key window).denial? key spec tokens cost = none) :
    KeyMove key a ⟨found, .reserve key spec window tokens cost⟩
      (a.allow ⟨key, (found.stateIn key window).window, tokens, cost⟩)
      (some ((found.stateIn key window).charge tokens cost))
  /-- A reservation of the key is settled. -/
  | settle (found : QuotaStore) (r : Reservation) (window : Int) (tokens cost : UInt64)
    (own : r.key = key) :
    KeyMove key a ⟨found, .reconcile r window tokens cost⟩
      (a.settle ⟨r, (found.stateIn key window).window, tokens, cost⟩)
      (some ((found.stateIn key window).settle r tokens cost))

/-- Every call is one of the moves. -/
theorem StoreEntry.keyMove (e : StoreEntry) (key : String) (a : Account) :
    KeyMove key a e (e.book key a) ((e.found.after e.call).keys.get? key) := by
  obtain ⟨found, call⟩ := e
  cases call with
  | usage key' window => exact .rest _
  | reconcile r window tokens cost =>
    by_cases own : r.key = key
    · subst own
      simpa [book, QuotaStore.after, QuotaStore.reconcile] using
        KeyMove.settle found r window tokens cost rfl
    · have other : ¬ key = r.key := Ne.symm own
      simpa [book, QuotaStore.after, QuotaStore.reconcile, own, other] using
        KeyMove.rest (a := a) ⟨found, .reconcile r window tokens cost⟩
  | reserve key' spec window tokens cost =>
    by_cases own : key' = key
    · subst own
      cases h : (found.stateIn key' window).denial? key' spec tokens cost with
      | none =>
        simpa [book, QuotaStore.after, QuotaStore.reserve_of_admitted h] using
          KeyMove.charge (a := a) found spec window tokens cost h
      | some d =>
        simpa [book, QuotaStore.after, QuotaStore.reserve_of_denied h] using
          KeyMove.refuse (a := a) ⟨found, .reserve key' spec window tokens cost⟩ window
    · simpa [book, QuotaStore.after, own, found.get?_reserve_of_ne (Ne.symm own)] using
        KeyMove.rest (a := a) ⟨found, .reserve key' spec window tokens cost⟩

/-- The last call of a row, as a move. -/
theorem keyMove_concat (key : String) (calls : List StoreCall) (call : StoreCall) :
    KeyMove key (accountOf key calls) ⟨({} : QuotaStore).run calls, call⟩
      (accountOf key (calls ++ [call])) (countersOf key (calls ++ [call])) := by
  rw [accountOf_concat, countersOf, QuotaStore.run_concat]
  exact StoreEntry.keyMove _ key _

/-- What holds of a key that was never seen and survives every move holds after
every row of calls. -/
theorem run_induction {key : String} {I : Account → Option KeyState → Prop}
    (unseen : I {} none)
    (move : ∀ e a a' s', I a (e.found.keys.get? key) → KeyMove key a e a' s' → I a' s')
    (calls : List StoreCall) : I (accountOf key calls) (countersOf key calls) := by
  induction calls using List.reverseRecOn with
  | nil => exact unseen
  | append_singleton calls call ih => exact move _ _ _ _ ih (keyMove_concat key calls call)

end ChatGateway

import ChatGateway.Proofs.Quota.Answers
import ChatGateway.Quota.Ledger

/-!
# Keys do not interfere

The calls of a ledger share its limits and its clock, and the store with the counters of all
keys.  Yet a call of one key reads and writes the counters of that key only, so it makes no
difference to the calls of another: they may be left out, or put in another order.  Hence it is
enough that the calls of one key wait for each other.

## Main definitions

* `LedgerCall`, `TimedLedger`, `TimedLedger.run`, `TimedLedger.trace` — calls of a ledger with
  its clock, the ledger after them, and what they are told.
* `LedgerCall.concerns` — what is kept when the calls of all other keys are left out.
* `TimedLedger.AgreeOn` — ledgers that are all the same to a key.
-/

namespace ChatGateway

/-! ## Calls of a ledger -/

/-- A call of a ledger, or a change of its limits or of its clock. -/
inductive LedgerCall where
  | reserve (key : String) (tokens cost : UInt64)
  | record (r : Reservation) (tokens cost : UInt64)
  | usage (key : String)
  | withSpecs (specs : Dict QuotaSpec)
  | setClock (now : Instant)
  | advanceClock (nanos : Int)

namespace LedgerCall

/-- The key of a call.  A record names it by its reservation; a change is about no key. -/
def key? : LedgerCall → Option String
  | reserve key _ _ => some key
  | record r _ _ => some r.key
  | usage key => some key
  | withSpecs _ => none
  | setClock _ => none
  | advanceClock _ => none

/-- A call concerns a key if it is about no other. -/
def concerns (key : String) (call : LedgerCall) : Bool :=
  call.key?.all (· = key)

/-- Two calls about different keys. -/
def Apart (x y : LedgerCall) : Prop :=
  ∃ j k, x.key? = some j ∧ y.key? = some k ∧ j ≠ k

theorem Apart.symm {x y : LedgerCall} (h : x.Apart y) : y.Apart x := by
  obtain ⟨j, k, hx, hy, ne⟩ := h
  exact ⟨k, j, hy, hx, Ne.symm ne⟩

/-- Every key is other to one of two calls that are apart. -/
theorem Apart.other {x y : LedgerCall} (h : x.Apart y) (key : String) :
    x.concerns key = false ∨ y.concerns key = false := by
  obtain ⟨j, k, hx, hy, ne⟩ := h
  by_cases own : j = key
  · exact .inr (by simpa [concerns, hy, ← own] using Ne.symm ne)
  · exact .inl (by simpa [concerns, hx] using own)

end LedgerCall

/-- A ledger, and the time that its clock shows. -/
structure TimedLedger where
  ledger : Ledger
  now : Instant

/-- A call together with what it is told, if it is told anything. -/
structure LedgerEntry where
  call : LedgerCall
  told : Option StoreAnswer

namespace TimedLedger

/-- The ledger and its clock after a call. -/
def after (l : TimedLedger) : LedgerCall → TimedLedger
  | .reserve key tokens cost => { l with ledger := (l.ledger.reserve l.now key tokens cost).2 }
  | .record r tokens cost => { l with ledger := l.ledger.record l.now r tokens cost }
  | .usage _ => l
  | .withSpecs specs => { l with ledger := l.ledger.withSpecs specs }
  | .setClock now => { l with now := now }
  | .advanceClock nanos => { l with now := l.now.after nanos }

/-- What a call is told. -/
def answer? (l : TimedLedger) : LedgerCall → Option StoreAnswer
  | .reserve key tokens cost => some (.admission (l.ledger.reserve l.now key tokens cost).1)
  | .record _ _ _ => some .settled
  | .usage key => some (.figures (l.ledger.usage? l.now key))
  | .withSpecs _ => none
  | .setClock _ => none
  | .advanceClock _ => none

/-- The ledger and its clock after a row of calls. -/
def run (l : TimedLedger) (calls : List LedgerCall) : TimedLedger :=
  calls.foldl after l

/-- The calls of a row with what they are told. -/
def trace (l : TimedLedger) : List LedgerCall → List LedgerEntry
  | [] => []
  | call :: calls => ⟨call, l.answer? call⟩ :: trace (l.after call) calls

/-- What is kept for a key. -/
def kept? (l : TimedLedger) (key : String) : Option KeyState :=
  l.ledger.store.keys.get? key

@[simp] theorem run_nil (l : TimedLedger) : l.run [] = l := rfl

@[simp] theorem run_cons (l : TimedLedger) (call : LedgerCall) (calls : List LedgerCall) :
    l.run (call :: calls) = (l.after call).run calls := rfl

theorem run_append (l : TimedLedger) (calls later : List LedgerCall) :
    l.run (calls ++ later) = (l.run calls).run later :=
  List.foldl_append

theorem trace_append (l : TimedLedger) (calls later : List LedgerCall) :
    l.trace (calls ++ later) = l.trace calls ++ (l.run calls).trace later := by
  induction calls generalizing l with
  | nil => rfl
  | cons call calls ih => simp [trace, ih]

theorem length_trace (l : TimedLedger) (calls : List LedgerCall) :
    (l.trace calls).length = calls.length := by
  induction calls generalizing l with
  | nil => rfl
  | cons call calls ih => simp [trace, ih]

/-! ## Calls of the store below -/

/-- The call of the store that a call of the ledger makes. -/
def storeCall? (l : TimedLedger) : LedgerCall → Option StoreCall
  | .reserve key tokens cost =>
    some (.reserve key (l.ledger.spec key) (windowOf l.now) tokens cost)
  | .record r tokens cost => some (.reconcile r (windowOf l.now) tokens cost)
  | .usage key => some (.usage key (windowOf l.now))
  | .withSpecs _ => none
  | .setClock _ => none
  | .advanceClock _ => none

theorem key_of_storeCall? {l : TimedLedger} {call : LedgerCall} {c : StoreCall}
    (h : l.storeCall? call = some c) : call.key? = some c.key := by
  cases call <;> cases h <;> rfl

/-- A call is told what the store tells. -/
theorem answer?_eq (l : TimedLedger) (call : LedgerCall) :
    l.answer? call = (l.storeCall? call).map l.ledger.store.answer := by
  cases call <;> rfl

theorem store_after (l : TimedLedger) (call : LedgerCall) :
    (l.after call).ledger.store =
      (l.storeCall? call).elim l.ledger.store l.ledger.store.after := by
  cases call <;> rfl

/-! ## Ledgers that agree on a key -/

/-- Two ledgers that are all the same to a key: they have the same limits and the same time, and
keep the same for the key. -/
structure AgreeOn (key : String) (a b : TimedLedger) : Prop where
  specs_eq : b.ledger.specs = a.ledger.specs
  now_eq : b.now = a.now
  kept_eq : b.kept? key = a.kept? key

/-- Ledgers that agree on every key are the same. -/
theorem eq_of_agreeOn {a b : TimedLedger} (h : ∀ key, AgreeOn key a b) : b = a := by
  obtain ⟨⟨specs, ⟨keys⟩⟩, now⟩ := a
  obtain ⟨⟨specs', ⟨keys'⟩⟩, now'⟩ := b
  obtain rfl : specs' = specs := (h "").specs_eq
  obtain rfl : now' = now := (h "").now_eq
  obtain rfl : keys' = keys := Dict.ext_get? fun key => (h key).kept_eq
  rfl

namespace AgreeOn

variable {key : String} {a b c : TimedLedger}

theorem refl (key : String) (a : TimedLedger) : AgreeOn key a a :=
  ⟨rfl, rfl, rfl⟩

theorem symm (h : AgreeOn key a b) : AgreeOn key b a :=
  ⟨h.specs_eq.symm, h.now_eq.symm, h.kept_eq.symm⟩

theorem trans (h : AgreeOn key a b) (h' : AgreeOn key b c) : AgreeOn key a c :=
  ⟨h'.specs_eq.trans h.specs_eq, h'.now_eq.trans h.now_eq, h'.kept_eq.trans h.kept_eq⟩

/-- Both ledgers make the same call of their store. -/
theorem storeCall?_eq (h : AgreeOn key a b) (call : LedgerCall) :
    b.storeCall? call = a.storeCall? call := by
  cases call <;> simp [storeCall?, Ledger.spec, h.specs_eq, h.now_eq]

/-- Whatever the call, it changes limits and clock of both alike. -/
theorem after_of_kept (h : AgreeOn key a b) {call : LedgerCall}
    (kept : (b.after call).kept? key = (a.after call).kept? key) :
    AgreeOn key (a.after call) (b.after call) := by
  refine ⟨?_, ?_, kept⟩
  · cases call <;> simp [after, Ledger.reserve, Ledger.record, Ledger.withSpecs, h.specs_eq]
  · cases call <;> simp [after, h.now_eq]

/-- A call that is about the key, or about none, is told the same by both, and leaves them in
agreement. -/
theorem told (h : AgreeOn key a b) {call : LedgerCall} (concerned : call.concerns key) :
    b.answer? call = a.answer? call ∧ AgreeOn key (a.after call) (b.after call) := by
  have both := h.storeCall?_eq call
  rw [b.answer?_eq, a.answer?_eq, both]
  cases made : a.storeCall? call with
  | none =>
    refine ⟨rfl, h.after_of_kept ?_⟩
    simp only [kept?, store_after, both, made, Option.elim_none]
    exact h.kept_eq
  | some c =>
    obtain rfl : c.key = key := by
      simpa [LedgerCall.concerns, key_of_storeCall? made] using concerned
    obtain ⟨told, left⟩ := QuotaStore.told_of_get? h.kept_eq
    refine ⟨congrArg some told, h.after_of_kept ?_⟩
    simpa only [kept?, store_after, both, made, Option.elim_some] using left

/-- A call of another key leaves the ledger as it was to the key. -/
theorem of_other (a : TimedLedger) {call : LedgerCall} (other : call.concerns key = false) :
    AgreeOn key a (a.after call) := by
  have kept : (a.after call).kept? key = a.kept? key := by
    rw [kept?, kept?, store_after]
    cases made : a.storeCall? call with
    | none => rfl
    | some c =>
      apply a.ledger.store.get?_after_of_ne
      simpa [LedgerCall.concerns, key_of_storeCall? made] using other
  cases call with
  | reserve => exact ⟨rfl, rfl, kept⟩
  | record => exact ⟨rfl, rfl, kept⟩
  | usage => exact ⟨rfl, rfl, kept⟩
  | withSpecs => cases other
  | setClock => cases other
  | advanceClock => cases other

/-- Every call leaves ledgers in agreement. -/
theorem after (h : AgreeOn key a b) (call : LedgerCall) :
    AgreeOn key (a.after call) (b.after call) := by
  cases concerned : call.concerns key with
  | true => exact (h.told concerned).2
  | false => exact (of_other a concerned).symm.trans (h.trans (of_other b concerned))

/-- Leaving the calls of other keys out makes no difference to the key. -/
theorem without_others (h : AgreeOn key a b) (calls : List LedgerCall) :
    (a.trace calls).filter (·.call.concerns key) = b.trace (calls.filter (·.concerns key)) ∧
      AgreeOn key (a.run calls) (b.run (calls.filter (·.concerns key))) := by
  induction calls generalizing a b with
  | nil => exact ⟨rfl, h⟩
  | cons call calls ih =>
    cases concerned : call.concerns key with
    | true =>
      obtain ⟨told, agree⟩ := h.told concerned
      obtain ⟨entries, last⟩ := ih agree
      simp only [trace, run_cons, List.filter_cons, concerned, if_true]
      exact ⟨by rw [entries, told], last⟩
    | false =>
      -- Only the first ledger makes the call, and to the key that is no difference.
      simp only [trace, run_cons, List.filter_cons, concerned, Bool.false_eq_true, if_false]
      exact ih ((of_other a concerned).symm.trans h)

end AgreeOn

/-! ## Calls in another order -/

/-- A call is told the same with a call of another key before it. -/
theorem answer?_after_of_apart (l : TimedLedger) {x y : LedgerCall} (h : x.Apart y) :
    (l.after x).answer? y = l.answer? y := by
  obtain ⟨j, k, hx, hy, ne⟩ := h
  have other : x.concerns k = false := by simpa [LedgerCall.concerns, hx] using ne
  have own : y.concerns k := by simp [LedgerCall.concerns, hy]
  exact ((AgreeOn.of_other l other).told own).1

/-- Two calls about different keys may be made in either order.  For to each key one of the two
is as if it were not made. -/
theorem after_comm (l : TimedLedger) {x y : LedgerCall} (h : x.Apart y) :
    (l.after y).after x = (l.after x).after y := by
  refine eq_of_agreeOn fun key => ?_
  rcases h.other key with skip | skip
  · have only_y : AgreeOn key (l.after y) ((l.after x).after y) := (AgreeOn.of_other l skip).after y
    exact only_y.symm.trans (AgreeOn.of_other (l.after y) skip)
  · have only_x : AgreeOn key (l.after x) ((l.after y).after x) := (AgreeOn.of_other l skip).after x
    exact (AgreeOn.of_other (l.after x) skip).symm.trans only_x

end TimedLedger

/-- **Keys do not interfere.**  Whatever a ledger holds and whatever row of calls follows: each key
is told the same, and has the same counters in the end, when the calls of all other keys are left
out.  Hence two calls about different keys, one right after the other, may change places: the
ledger is the same in the end, and each of the calls of the row is told the same. -/
theorem keys_do_not_interfere (l : TimedLedger) :
    (∀ (calls : List LedgerCall) (key : String),
      (l.trace calls).filter (·.call.concerns key) = l.trace (calls.filter (·.concerns key)) ∧
        (l.run calls).kept? key = (l.run (calls.filter (·.concerns key))).kept? key) ∧
      ∀ (past : List LedgerCall) (x y : LedgerCall) (later : List LedgerCall), x.Apart y →
        l.run (past ++ y :: x :: later) = l.run (past ++ x :: y :: later) ∧
          ∃ (before : List LedgerEntry) (told_x told_y : Option StoreAnswer)
            (after : List LedgerEntry), before.length = past.length ∧
            l.trace (past ++ x :: y :: later) = before ++ ⟨x, told_x⟩ :: ⟨y, told_y⟩ :: after ∧
            l.trace (past ++ y :: x :: later) = before ++ ⟨y, told_y⟩ :: ⟨x, told_x⟩ :: after := by
  refine ⟨fun calls key => ?_, fun past x y later apart => ?_⟩
  · obtain ⟨entries, agree⟩ := (TimedLedger.AgreeOn.refl key l).without_others calls
    exact ⟨entries, agree.kept_eq.symm⟩
  · have swap := (l.run past).after_comm apart
    refine ⟨?_, l.trace past, (l.run past).answer? x, (l.run past).answer? y,
      (((l.run past).after x).after y).trace later, ?_, ?_, ?_⟩
    · simp only [TimedLedger.run_append, TimedLedger.run_cons, swap]
    · exact l.length_trace past
    · rw [TimedLedger.trace_append]
      simp only [TimedLedger.trace, (l.run past).answer?_after_of_apart apart]
    · rw [TimedLedger.trace_append]
      simp only [TimedLedger.trace, (l.run past).answer?_after_of_apart apart.symm, swap]

/-- A ledger that grants one key a single request a window, at the beginning of 1970. -/
def sharedLedger : TimedLedger where
  ledger := { specs := Dict.empty.insert "a" { requestsPerMinute := some 1 } }
  now := .epoch

/-- Calls of two keys up to a window in which other limits hold. -/
def openingCalls : List LedgerCall :=
  [.reserve "a" 10 1, .reserve "b" 5 1, .reserve "a" 10 1, .withSpecs .empty,
   .advanceClock 61000000000]

/-- The call of one key is settled late, right before a call of the other. -/
theorem keys_do_not_interfere_shared :
    (LedgerCall.record ⟨"a", 0, 10, 1⟩ 12 2).Apart (.reserve "b" 5 1) ∧
      sharedLedger.run (openingCalls ++ .reserve "b" 5 1 :: .record ⟨"a", 0, 10, 1⟩ 12 2 ::
          [.usage "a"]) =
        sharedLedger.run (openingCalls ++ .record ⟨"a", 0, 10, 1⟩ 12 2 :: .reserve "b" 5 1 ::
          [.usage "a"]) ∧
      (sharedLedger.run (openingCalls ++ .record ⟨"a", 0, 10, 1⟩ 12 2 :: .reserve "b" 5 1 ::
          [.usage "a"])).kept? "a" = some ⟨1, 0, 12, 2⟩ := by
  have apart : (LedgerCall.record ⟨"a", 0, 10, 1⟩ 12 2).Apart (.reserve "b" 5 1) :=
    ⟨"a", "b", rfl, rfl, by decide⟩
  obtain ⟨-, swap⟩ := keys_do_not_interfere sharedLedger
  obtain ⟨same, -⟩ := swap openingCalls _ _ [.usage "a"] apart
  exact ⟨apart, same, by decide +kernel⟩

end ChatGateway

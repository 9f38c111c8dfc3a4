import ChatGateway.Proofs.Session.Operations

/-!
# Failures of the store

A store fails with whatever error it likes, and its error is passed on as it is, at the end of a
lifecycle operation, from a question for the usage of a key, and from a call.  A call asks a store
that fails at most once.

So each operation fails for a reason of its own or for that of the store, and the lemmas here say
which.  What the store says may sound like a refusal of the session; `Gateway.FailsApart` is the
hypothesis that it does not.

## Main definitions

* `Gateway.Calls` — an operation calls one of the store.
* `Gateway.StoreFails` — the store fails in an operation; `error?_of_storeFails`, it is heard of.
* `GatewayError.isRefusal`, `Gateway.FailsApart` — the errors by which a session refuses, and a
  store that fails with others only.
* `error?_usage`, `error?_chat`, `error?_reply` — how the operations fail that ask the store.
-/

namespace ChatGateway

/-! ## How calls fail -/

section Failures

variable {α : Type} (g : Gateway α) {s : Session} {e : GatewayError}

/-- A walk that meets a store that fails asks it at most once. -/
theorem walk_of_fault (fault : s.faults .reserve = some e) (call : Call) (trail : Trail)
    (candidates : List String) :
    (∃ attempts last,
        g.walk call trail s candidates = (.done (.error (.exhausted attempts last)), s)) ∨
      g.walk call trail s candidates = (.done (.error e), s.enter .reserve) := by
  induction candidates generalizing trail with
  | nil => exact .inl ⟨_, _, rfl⟩
  | cons candidate rest ih =>
    simp only [Gateway.walk]
    split
    · exact ih _
    · have entered : (s.enter .reserve).faults .reserve = some e := fault
      simp only [Session.reserve, entered, or_true]

/-- A walk that meets a store that works fails only when it has run out of candidates. -/
theorem error_walk_of_working (working : s.faults .reserve = none) {call : Call} {trail : Trail}
    {candidates : List String}
    (failed : (g.walk call trail s candidates).1 = .done (.error e)) :
    ∃ attempts last, e = .exhausted attempts last := by
  induction candidates generalizing trail s with
  | nil =>
    obtain rfl : GatewayError.exhausted _ _ = e := by simpa [Gateway.walk] using failed
    exact ⟨_, _, rfl⟩
  | cons candidate rest ih =>
    simp only [Gateway.walk] at failed
    split at failed
    · exact ih working failed
    · have entered : (s.enter .reserve).faults .reserve = none := working
      simp only [Session.reserve, entered] at failed
      split at failed
      · rename_i answered
        cases answered
      · rename_i answered
        obtain ⟨-, rfl⟩ := Prod.mk.inj answered
        refine ih ?_ failed
        exact working
      · cases failed

/-- A walk that fails has run out of candidates, or asked its store and the store failed. -/
theorem error_walk {call : Call} {trail : Trail} {candidates : List String}
    (failed : (g.walk call trail s candidates).1 = .done (.error e)) :
    (∃ attempts last, e = .exhausted attempts last) ∨
      (s.faults .reserve = some e ∧ (g.walk call trail s candidates).2 = s.enter .reserve) := by
  cases fault : s.faults .reserve with
  | none => exact .inl (error_walk_of_working g fault failed)
  | some e' =>
    rcases walk_of_fault g fault call trail candidates with ⟨_, _, walked⟩ | walked
    · rw [walked] at failed
      cases failed
      exact .inl ⟨_, _, rfl⟩
    · rw [walked] at failed ⊢
      cases failed
      exact .inr ⟨rfl, rfl⟩

/-- A call that begins fails because it is refused, or because its walk fails. -/
theorem error_chat {key model : String} {messages : List Message} {temperature : Option Binary}
    {maxTokens : Option UInt32}
    (failed : (g.chat s key model messages temperature maxTokens).1 = .done (.error e)) :
    s.open? key model messages temperature maxTokens = .error e ∨
      (∃ attempts last, e = .exhausted attempts last) ∨
      (s.faults .reserve = some e ∧
        (g.chat s key model messages temperature maxTokens).2 = s.enter .reserve) := by
  rw [Gateway.chat_eq] at failed ⊢
  cases opened : s.open? key model messages temperature maxTokens with
  | error refusal =>
    simp only [opened, Progress.done.injEq, Except.error.injEq] at failed
    exact .inl (by rw [failed])
  | ok call =>
    simp only [opened] at failed
    exact .inr (error_walk g failed)

/-- A call that goes on fails for good, or because its walk fails. -/
theorem error_answer {w : Waiting} {reply : Except ProviderError ChatResponse}
    {latencyMs : UInt64} (failed : (g.answer w reply latencyMs s).1 = .done (.error e)) :
    (∃ p, e = .aborted w.candidate p w.trail.attempts) ∨
      (∃ attempts last, e = .exhausted attempts last) ∨
      (s.faults .reserve = some e ∧ (g.answer w reply latencyMs s).2 = s.enter .reserve) := by
  cases reply with
  | ok response => cases failed
  | error p =>
    cases passing : p.retryable with
    | true =>
      rw [Gateway.answer_of_retryable passing] at failed ⊢
      exact .inr (error_walk g failed)
    | false =>
      rw [Gateway.answer_of_fatal passing] at failed
      cases failed
      exact .inl ⟨p, rfl⟩

/-- A call that begins and asks a store that fails is told so. -/
theorem chat_of_fault (fault : s.faults .reserve = some e) {key model : String}
    {messages : List Message} {temperature : Option Binary} {maxTokens : Option UInt32}
    (asked : s.storeCalls.count .reserve <
      (g.chat s key model messages temperature maxTokens).2.storeCalls.count .reserve) :
    (g.chat s key model messages temperature maxTokens).1 = .done (.error e) := by
  rw [Gateway.chat_eq] at asked ⊢
  cases opened : s.open? key model messages temperature maxTokens with
  | error refusal =>
    simp only [opened] at asked
    exact absurd asked (Nat.lt_irrefl _)
  | ok call =>
    simp only [opened] at asked
    rcases walk_of_fault g fault call {} call.candidates with ⟨_, _, walked⟩ | walked
    · rw [walked] at asked
      exact absurd asked (Nat.lt_irrefl _)
    · exact congrArg Prod.fst walked

/-- A call that goes on and asks a store that fails is told so. -/
theorem answer_of_fault (fault : s.faults .reserve = some e) (w : Waiting)
    (reply : Except ProviderError ChatResponse) (latencyMs : UInt64)
    (asked : s.storeCalls.count .reserve <
      (g.answer w reply latencyMs s).2.storeCalls.count .reserve) :
    (g.answer w reply latencyMs s).1 = .done (.error e) := by
  cases reply with
  | ok response =>
    -- to settle a call is another operation of the store
    have settled (r : Reservation) (tokens cost : UInt64) :
        (s.record r tokens cost).storeCalls = s.storeCalls ++ [.reconcile] := by
      simp only [Session.record, Session.enter]
      split <;> rfl
    simp [Gateway.answer, settled] at asked
  | error p =>
    cases passing : p.retryable with
    | true =>
      rw [Gateway.answer_of_retryable passing] at asked ⊢
      rcases walk_of_fault g fault w.call (w.trail.push w.candidate (.provider p)) w.rest with
        ⟨_, _, walked⟩ | walked
      · rw [walked] at asked
        exact absurd asked (Nat.lt_irrefl _)
      · rw [walked]
    | false =>
      rw [Gateway.answer_of_fatal passing] at asked
      exact absurd asked (Nat.lt_irrefl _)

end Failures

/-! ## Failures of the store -/

section StoreFailures

variable {α : Type} (g : Gateway α)

/-- An operation calls this operation of the store. -/
def Gateway.Calls (x : Station) (op : Operation) (m : StoreMethod) : Prop :=
  x.session.storeCalls.count m < (g.operate x op).2.session.storeCalls.count m

/-- What an operation may ask the store for, and wait for the answer. -/
def Operation.asks? : Operation → Option StoreMethod
  | .usage _ => some .usage
  | .chat .. | .reply .. => some .reserve
  | _ => none

/-- The store fails with an error in an operation: at the end of the lifecycle operation that is
under way, or when it is asked for something. -/
inductive Gateway.StoreFails (x : Station) : Operation → GatewayError → Prop
  | connect {e : GatewayError} (begun : x.session.underway = some .connect) :
    StoreFails x (.finishInit (some e)) e
  | close {e : GatewayError} (begun : x.session.underway = some .close) :
    StoreFails x (.finishClose (some e)) e
  | asked {op : Operation} {m : StoreMethod} {e : GatewayError} (asks : op.asks? = some m)
    (calls : g.Calls x op m) (fault : x.session.faults m = some e) : StoreFails x op e

/-- Whether an error is one by which a session refuses an operation. -/
def GatewayError.isRefusal : GatewayError → Bool
  | notInitialized | sessionClosed | keyRevoked _ _ => true
  | _ => false

/-- If the store fails in an operation, it fails with an error of its own, as
`GatewayError.store` is, and by none of these does a session refuse an operation. -/
def Gateway.FailsApart (x : Station) (op : Operation) : Prop :=
  ∀ e, g.StoreFails x op e → e.isRefusal = false

variable {x : Station} {op : Operation} {e : GatewayError}

theorem Gateway.FailsApart.not_storeFails {g : Gateway α} (apart : g.FailsApart x op)
    (refusal : e.isRefusal = true) : ¬ g.StoreFails x op e := by
  intro fails
  rw [apart e fails] at refusal
  cases refusal

/-- A store that fails is heard of. -/
theorem error?_of_storeFails (fails : g.StoreFails x op e) :
    (g.operate x op).1.error? = some e := by
  cases fails with
  | connect begun => simp [Gateway.operate, Gateway.finishInit, begun, Answer.error?]
  | close begun => simp [Gateway.operate, Session.finishClose, begun, Answer.error?]
  | asked asks calls fault =>
    cases op with
    | usage key =>
      cases asks
      have entered : (x.session.enter .usage).faults .usage = some e := fault
      cases served : x.session.config with
      | error refusal => simp [Gateway.Calls, Gateway.operate, Session.usage, served] at calls
      | ok config => simp [Gateway.operate, Session.usage, served, entered, Answer.error?]
    | chat key model messages temperature maxTokens =>
      cases asks
      simp [Gateway.operate, chat_of_fault g fault calls, Answer.error?]
    | reply w ask =>
      cases asks
      have told (turn : Turn) :=
        answer_of_fault (s := x.session.atTime turn.now) g fault w turn.reply turn.latencyMs
      simp [Gateway.operate, told _ calls, Answer.error?]
    | _ => cases asks

theorem storeFails_of_enter {m : StoreMethod} (asks : op.asks? = some m)
    (fault : x.session.faults m = some e)
    (entered : (g.operate x op).2.session.storeCalls = (x.session.enter m).storeCalls) :
    g.StoreFails x op e :=
  .asked asks (by simp [Gateway.Calls, entered, Session.enter]) fault

/-- To ask for the usage of a key fails because there is no configuration, or because the store
fails. -/
theorem error?_usage {key : String} (failed : (g.operate x (.usage key)).1.error? = some e) :
    x.session.config = .error e ∨ g.StoreFails x (.usage key) e := by
  cases served : x.session.config with
  | error refusal =>
    simp only [Gateway.operate, Session.usage, served, Answer.error?, Option.some.injEq] at failed
    exact .inl (by rw [failed])
  | ok config =>
    cases fault : x.session.faults .usage with
    | none =>
      have entered : (x.session.enter .usage).faults .usage = none := fault
      simp [Gateway.operate, Session.usage, served, entered, Answer.error?] at failed
    | some e' =>
      have entered : (x.session.enter .usage).faults .usage = some e' := fault
      obtain rfl : e' = e := by
        simpa [Gateway.operate, Session.usage, served, entered, Answer.error?] using failed
      exact .inr (storeFails_of_enter g rfl fault
        (by simp [Gateway.operate, Session.usage, served, entered]))

/-- A call that begins fails because it is refused, because its candidates are exhausted, or
because the store fails. -/
theorem error?_chat {key model : String} {messages : List Message} {temperature : Option Binary}
    {maxTokens : Option UInt32}
    (failed : (g.operate x (.chat key model messages temperature maxTokens)).1.error? = some e) :
    x.session.open? key model messages temperature maxTokens = .error e ∨
      (∃ attempts last, e = .exhausted attempts last) ∨
      g.StoreFails x (.chat key model messages temperature maxTokens) e := by
  rcases error_chat g (Answer.done_of_error? failed) with refused | out | ⟨fault, entered⟩
  · exact .inl refused
  · exact .inr (.inl out)
  · exact .inr (.inr (storeFails_of_enter g rfl fault (congrArg Session.storeCalls entered)))

/-- A call that goes on fails for good, because its candidates are exhausted, or because the
store fails. -/
theorem error?_reply {w : Waiting} {ask : Providers Line}
    (failed : (g.operate x (.reply w ask)).1.error? = some e) :
    (∃ p, e = .aborted w.candidate p w.trail.attempts) ∨
      (∃ attempts last, e = .exhausted attempts last) ∨ g.StoreFails x (.reply w ask) e := by
  rcases error_answer g (Answer.done_of_error? failed) with ended | out | ⟨fault, entered⟩
  · exact .inl ended
  · exact .inr (.inl out)
  · have asked := congrArg Session.storeCalls entered
    exact .inr (.inr (storeFails_of_enter g rfl fault asked))

end StoreFailures

end ChatGateway

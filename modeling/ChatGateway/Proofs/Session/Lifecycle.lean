import ChatGateway.Proofs.Session.StoreFailures
import Mathlib.Data.List.Induction

/-!
# The lifecycle of a gateway

However initialising, closing and all other operations follow each other, the store is
connected once at most, and closed once at most, after it was connected.  An operation that
comes too early or too late is told so, and nothing has happened then.

The first half is an invariant of standings that every `Shift` keeps.  The second half needs
no invariant: which operations are refused can be read off the session that they meet.

Nobody but the session says that an operation is too early or too late, unless the store itself
fails with such an error.  With a store that does not, an operation is told so exactly if it is
refused.

## Main definitions

* `Gateway.Connected` — the store was connected.
* `Standing.Sound` — the invariant; `sound_station` for whole runs.
* `Refused`, `error?_operate_iff` — which operations are refused, and with which error.
* `Orderly`, `Punctual`, `lifecycle_orderly` — what holds of an operation that comes after any
  others, with any store and with one that fails with errors of its own.
-/

namespace ChatGateway

variable {α : Type}

/-- The store was connected: some operation was the end of a connection that succeeded. -/
def Gateway.Connected (g : Gateway α) (start : Station) (ops : List Operation) : Prop :=
  ∃ past, past ++ [.finishInit none] <+: ops ∧
    (g.station start past).session.underway = some .connect

/-! ## Connections -/

section Connections

variable (g : Gateway α) (start : Station)

theorem not_connected_nil : ¬ g.Connected start [] := by
  rintro ⟨past, earlier, -⟩
  simp at earlier

theorem connected_concat (ops : List Operation) (op : Operation) :
    g.Connected start (ops ++ [op]) ↔ g.Connected start ops ∨
      (op = .finishInit none ∧ (g.station start ops).session.underway = some .connect) := by
  constructor
  · rintro ⟨past, earlier, begun⟩
    rcases List.prefix_concat_iff.1 earlier with last | earlier
    · obtain ⟨rfl, same⟩ := List.append_inj' last rfl
      obtain rfl := List.singleton_inj.1 same
      exact .inr ⟨rfl, begun⟩
    · exact .inl ⟨past, earlier, begun⟩
  · rintro (⟨past, earlier, begun⟩ | ⟨rfl, begun⟩)
    · exact ⟨past, earlier.trans (List.prefix_append _ _), begun⟩
    · exact ⟨ops, List.prefix_rfl, begun⟩

end Connections

/-! ## The invariant -/

/-- What holds of the standing of a session at any time, given whether its store was
connected. -/
structure Standing.Sound (x : Standing) (connected : Prop) : Prop where
  connecting : x.underway = some .connect → x.phase = .uninitialized
  fresh : x.phase = .uninitialized → ¬ connected
  served : ∀ config, x.phase = .ready config → connected
  unclosed : x.phase ≠ .closed → x.closes = 0
  closes_le : x.closes ≤ 1
  closes_after : 0 < x.closes → connected

/-- Every operation keeps the invariant. -/
theorem Standing.Sound.shift {config : Config} {x z : Standing} {op : Operation}
    {connected : Prop} (h : x.Sound connected) (shift : Shift config x op z) :
    z.Sound (connected ∨ (op = .finishInit none ∧ x.underway = some .connect)) := by
  -- only `connected` changes whether the store was connected
  cases shift with
  | rest _ unconnected _ =>
    have same : (connected ∨ (op = .finishInit none ∧ x.underway = some .connect)) = connected := by
      simpa using fun ended begun => absurd begun (unconnected ended)
    rwa [same]
  | connect free fresh =>
    simp only [reduceCtorEq, false_and, or_false]
    exact ⟨fun _ => fresh, h.fresh, h.served, h.unclosed, h.closes_le, h.closes_after⟩
  | connected begun =>
    have fresh := h.connecting begun
    simp only [begun, and_self, or_true]
    refine ⟨by simp, by simp, by simp, fun _ => ?_, h.closes_le, by simp⟩
    exact h.unclosed (by simp [fresh])
  | unconnected e begun =>
    simp only [Operation.finishInit.injEq, reduceCtorEq, false_and, or_false]
    exact ⟨by simp, h.fresh, h.served, h.unclosed, h.closes_le, h.closes_after⟩
  | close free served ready =>
    have none_before : x.closes = 0 := h.unclosed (by simp [ready])
    simp only [reduceCtorEq, false_and, or_false]
    refine ⟨by simp, by simp, by simp, by simp, by simp [none_before], fun _ => ?_⟩
    exact h.served served ready
  | shut free unready =>
    simp only [reduceCtorEq, false_and, or_false]
    exact ⟨by simp [free], by simp, by simp, by simp, h.closes_le, h.closes_after⟩
  | closed fault begun =>
    simp only [reduceCtorEq, false_and, or_false]
    exact ⟨by simp, h.fresh, h.served, h.unclosed, h.closes_le, h.closes_after⟩
  | reload next served ready =>
    simp only [reduceCtorEq, false_and, or_false]
    refine ⟨fun begun => ?_, by simp, fun _ _ => h.served served ready, fun _ => ?_, h.closes_le,
      h.closes_after⟩
    · have fresh := h.connecting begun
      rw [ready] at fresh
      cases fresh
    · exact h.unclosed (by simp [ready])
  | policy u unclosed =>
    simp only [reduceCtorEq, false_and, or_false]
    exact ⟨h.connecting, h.fresh, h.served, h.unclosed, h.closes_le, h.closes_after⟩

/-- A session that is closed stays closed. -/
theorem Standing.Sound.closed {config : Config} {x z : Standing} {op : Operation}
    {connected : Prop} (h : x.Sound connected) (shift : Shift config x op z)
    (closed : x.phase = .closed) : z.phase = .closed := by
  cases shift with
  | connected begun =>
    -- a connection that is under way keeps the session from being closed
    have fresh := h.connecting begun
    rw [closed] at fresh
    cases fresh
  | reload next served ready =>
    rw [closed] at ready
    cases ready
  | close => rfl
  | shut => rfl
  | _ => exact closed

/-- The invariant holds after any row of operations. -/
theorem sound_station (g : Gateway α) {start : Station} (new : start.New) (ops : List Operation) :
    (g.station start ops).session.standing.Sound (g.Connected start ops) := by
  induction ops using List.reverseRecOn with
  | nil =>
    have never : ¬ g.Connected start [] := not_connected_nil g start
    constructor <;>
      simp [Session.standing, new.phase_eq, new.underway_eq, new.storeCalls_eq, never]
  | append_singleton ops op ih =>
    rw [Gateway.station_concat, connected_concat]
    exact ih.shift (shift_operate g (g.station start ops) op)

/-! ## Calls of the store -/

section StoreCalls

variable (g : Gateway α) {x : Station} {op : Operation}

/-- The store is connected only where the lifecycle is free and a session is fresh. -/
theorem of_calls_connect (calls : g.Calls x op .connect) :
    op = .beginInit ∧ x.session.underway = none ∧ x.session.phase = .uninitialized := by
  have shift := shift_operate g x op
  have more : x.session.standing.connects < (g.operate x op).2.session.standing.connects := calls
  generalize (g.operate x op).2.session.standing = z at shift more
  cases shift with
  | connect free fresh => exact ⟨rfl, free, fresh⟩
  | _ => exact absurd more (Nat.lt_irrefl _)

/-- The store is closed only where the lifecycle is free and a session is ready. -/
theorem of_calls_close (calls : g.Calls x op .close) :
    op = .beginClose ∧ x.session.underway = none ∧ ∃ served, x.session.phase = .ready served := by
  have shift := shift_operate g x op
  have more : x.session.standing.closes < (g.operate x op).2.session.standing.closes := calls
  generalize (g.operate x op).2.session.standing = z at shift more
  cases shift with
  | close free served ready => exact ⟨rfl, free, served, ready⟩
  | _ => exact absurd more (Nat.lt_irrefl _)

/-- Where the lifecycle is free and a session is fresh, to initialise it is to connect the
store. -/
theorem calls_connect (free : x.session.underway = none)
    (fresh : x.session.phase = .uninitialized) : g.Calls x .beginInit .connect := by
  simp [Gateway.Calls, Gateway.operate, Session.beginInit, Session.enter, free, fresh]

end StoreCalls

/-! ## Refusals -/

/-- Whether an operation is served from a configuration. -/
def Operation.serves : Operation → Bool
  | .reload _ | .config | .usage _ | .chat .. => true
  | _ => false

/-- Whether an error is about the lifecycle of a session. -/
def GatewayError.ofLifecycle : GatewayError → Bool
  | .notInitialized | .sessionClosed => true
  | _ => false

theorem GatewayError.isRefusal_of_ofLifecycle {e : GatewayError} (h : e.ofLifecycle = true) :
    e.isRefusal = true := by
  cases e with
  | notInitialized => rfl
  | sessionClosed => rfl
  | _ => cases h

/-- The operations that are refused, each with its error. -/
inductive Refused (s : Session) : Operation → GatewayError → Prop
  /-- There is no configuration to serve it from. -/
  | unserved {op : Operation} {e : GatewayError} (serves : op.serves = true)
    (unready : s.config = .error e) : Refused s op e
  | policy (u : PolicyUpdate) (closed : s.phase = .closed) :
    Refused s (.applyPolicy u) .sessionClosed
  | init (free : s.underway = none) (closed : s.phase = .closed) :
    Refused s .beginInit .sessionClosed

theorem config_eq_error_iff (s : Session) (e : GatewayError) :
    s.config = .error e ↔ (s.phase = .uninitialized ∧ e = .notInitialized) ∨
      (s.phase = .closed ∧ e = .sessionClosed) := by
  unfold Session.config
  cases s.phase <;> simp [eq_comm]

section Refusals

variable (g : Gateway α)

/-- What is refused is told so, and nothing has happened. -/
theorem operate_of_refused {x : Station} {op : Operation} {e : GatewayError}
    (refused : Refused x.session op e) :
    (g.operate x op).1.error? = some e ∧ (g.operate x op).2 = x := by
  cases refused with
  | unserved serves unready =>
    cases op with
    | reload next => simp [Gateway.operate, Session.reload, unready, Answer.error?]
    | config => simp [Gateway.operate, unready, Answer.error?]
    | usage key => simp [Gateway.operate, Session.usage, unready, Answer.error?]
    | chat => simp [Gateway.operate, Gateway.chat, unready, Answer.error?]
    | _ => cases serves
  | policy u closed => simp [Gateway.operate, Session.applyPolicy, closed, Answer.error?]
  | init free closed => simp [Gateway.operate, Session.beginInit, free, closed, Answer.error?]

/-- An operation that is served from a configuration fails for no reason of the lifecycle, unless
the store does. -/
theorem error?_of_ready {x : Station} {op : Operation} {config : Config} {e : GatewayError}
    (serves : op.serves = true) (ready : x.session.config = .ok config)
    (failed : (g.operate x op).1.error? = some e) :
    e.ofLifecycle = false ∨ g.StoreFails x op e := by
  cases op with
  | reload next => simp [Gateway.operate, Session.reload, ready, Answer.error?] at failed
  | config => simp [Gateway.operate, ready, Answer.error?] at failed
  | usage key =>
    rcases error?_usage g failed with unready | fails
    · rw [ready] at unready
      cases unready
    · exact .inr fails
  | chat key model messages temperature maxTokens =>
    rcases error?_chat g failed with refused | ⟨_, _, rfl⟩ | fails
    · -- a ready session refuses a call only for a revoked key
      simp only [Session.open?, ready] at refused
      split at refused
      · obtain rfl := Except.error.inj refused
        exact .inl rfl
      · cases refused
    · exact .inl rfl
    · exact .inr fails
  | _ => cases serves

/-- To begin to initialise fails only if it is refused. -/
theorem error?_beginInit {x : Station} {e : GatewayError}
    (failed : (g.operate x .beginInit).1.error? = some e) : Refused x.session .beginInit e := by
  simp only [Gateway.operate, Session.beginInit] at failed
  by_cases busy : x.session.underway.isSome
  · simp [busy, Answer.error?] at failed
  · have free : x.session.underway = none := by simpa using busy
    cases phase : x.session.phase with
    | closed =>
      obtain rfl : GatewayError.sessionClosed = e := by
        simpa [free, phase, Answer.error?] using failed
      exact .init free phase
    | _ => simp [free, phase, Answer.error?] at failed

/-- To begin to close never fails. -/
theorem error?_beginClose (x : Station) : (g.operate x .beginClose).1.error? = none := by
  simp only [Gateway.operate, Session.beginClose]
  by_cases busy : x.session.underway.isSome
  · simp [busy, Answer.error?]
  · have free : x.session.underway = none := by simpa using busy
    cases phase : x.session.phase <;> simp [free, Answer.error?]

/-- To end either fails only as the store does. -/
theorem error?_finish {x : Station} {op : Operation} {fault : Option GatewayError}
    {e : GatewayError} (ends : op = .finishInit fault ∨ op = .finishClose fault)
    (failed : (g.operate x op).1.error? = some e) : g.StoreFails x op e := by
  rcases ends with rfl | rfl
  all_goals
    simp only [Gateway.operate] at failed
    split at failed
    · rename_i begun
      cases fault with
      | none => cases failed
      | some e' =>
        obtain rfl : e' = e := Option.some.inj failed
        constructor
        exact begun
    · cases failed

/-- An operation that needs no configuration fails because it is refused, because the store fails,
or for no reason of the lifecycle. -/
theorem error?_of_unserving {x : Station} {op : Operation} {e : GatewayError}
    (unserving : op.serves = false) (failed : (g.operate x op).1.error? = some e) :
    Refused x.session op e ∨ e.ofLifecycle = false ∨ g.StoreFails x op e := by
  cases op with
  | beginInit => exact .inl (error?_beginInit g failed)
  | finishInit fault => exact .inr (.inr (error?_finish g (.inl rfl) failed))
  | beginClose =>
    rw [error?_beginClose] at failed
    cases failed
  | finishClose fault => exact .inr (.inr (error?_finish g (.inr rfl) failed))
  | applyPolicy u =>
    by_cases closed : x.session.phase = .closed
    · obtain rfl : GatewayError.sessionClosed = e := by
        simpa [Gateway.operate, Session.applyPolicy, closed, Answer.error?] using failed
      exact .inl (.policy u closed)
    · simp [Gateway.operate, Session.applyPolicy, closed, Answer.error?] at failed
  | reply w ask =>
    rcases error?_reply g failed with ⟨_, rfl⟩ | ⟨_, _, rfl⟩ | fails
    · exact .inr (.inl rfl)
    · exact .inr (.inl rfl)
    · exact .inr (.inr fails)
  | outside now store faults => cases failed
  | _ => cases unserving

/-- An error of the lifecycle is told to exactly those that are refused, and where the store
fails with it. -/
theorem error?_operate_iff {x : Station} {op : Operation} {e : GatewayError}
    (ofLifecycle : e.ofLifecycle = true) :
    (g.operate x op).1.error? = some e ↔ Refused x.session op e ∨ g.StoreFails x op e := by
  constructor
  · intro failed
    cases serves : op.serves with
    | false =>
      have either := error?_of_unserving g serves failed
      simpa [ofLifecycle] using either
    | true =>
      cases served : x.session.config with
      | ok config =>
        have either := error?_of_ready g serves served failed
        exact .inr (by simpa [ofLifecycle] using either)
      | error e' =>
        have refused : Refused x.session op e' := .unserved serves served
        have told := (operate_of_refused g refused).1
        rw [failed] at told
        obtain rfl := Option.some.inj told
        exact .inl refused
  · rintro (refused | fails)
    · exact (operate_of_refused g refused).1
    · exact error?_of_storeFails g fails

end Refusals

/-! ## Operations in order -/

/-- What holds of an operation that meets a gateway, given whether its store was connected. -/
structure Orderly (g : Gateway α) (x : Station) (connected : Prop) (op : Operation) : Prop where
  /-- The store is connected for a fresh session only, and never again once it was. -/
  connects : g.Calls x op .connect → x.session.phase = .uninitialized ∧ ¬ connected
  /-- A connection that fails leaves a session as fresh as before, to be tried again. -/
  failed : ∀ e, op = .finishInit (some e) → x.session.underway = some .connect →
    (g.operate x op).1 = .done (.error e) ∧
      (g.operate x op).2.session.phase = .uninitialized ∧
      g.Calls (g.operate x op).2 .beginInit .connect
  succeeded : op = .finishInit none → x.session.underway = some .connect →
    (g.operate x op).1 = .done (.ok ()) ∧ (g.operate x op).2.session.phase = .ready g.config
  /-- The store is closed after it was connected, and once at most. -/
  closes : g.Calls x op .close → connected
  closes_le : (g.operate x op).2.session.storeCalls.count .close ≤ 1
  closed : x.session.phase = .closed → (g.operate x op).2.session.phase = .closed
  /-- A session may be closed again, and nothing more happens. -/
  reclosed : op = .beginClose → x.session.underway = none → x.session.phase = .closed →
    g.operate x op = (.done (.ok ()), x)
  /-- An operation is told that it comes too early exactly if it is served from a configuration
  and the session is fresh, and where the store fails with this error. -/
  notInitialized : (g.operate x op).1.error? = some .notInitialized ↔
    (op.serves = true ∧ x.session.phase = .uninitialized) ∨ g.StoreFails x op .notInitialized
  /-- It is told that it comes too late exactly if the session is closed and it is served from
  a configuration, applies a policy or initialises, and where the store fails with this error. -/
  sessionClosed : (g.operate x op).1.error? = some .sessionClosed ↔
    (x.session.phase = .closed ∧ (op.serves = true ∨ (∃ u, op = .applyPolicy u) ∨
      (op = .beginInit ∧ x.session.underway = none))) ∨ g.StoreFails x op .sessionClosed
  policies : ∀ u, op = .applyPolicy u → x.session.phase ≠ .closed →
    (g.operate x op).1 = .done (.ok ())
  /-- One lifecycle operation waits for the other. -/
  waits : op = .beginInit ∨ op = .beginClose → x.session.underway ≠ none →
    g.operate x op = (.silent, x)
  /-- Whatever is told to be too early or too late changes nothing, unless it is the store that
  says so: not the configuration, the counters, the revocations, the cooldowns or the events.  No
  provider is asked. -/
  refused : ∀ e, (g.operate x op).1.error? = some e → e.ofLifecycle = true →
    (g.operate x op).2 = x ∨ g.StoreFails x op e

/-- What holds besides of an operation in which the store does not speak of the lifecycle. -/
structure Punctual (g : Gateway α) (x : Station) (op : Operation) : Prop where
  /-- An operation is told that it comes too early exactly if it is served from a
  configuration and the session is fresh. -/
  notInitialized : (g.operate x op).1.error? = some .notInitialized ↔
    op.serves = true ∧ x.session.phase = .uninitialized
  /-- It is told that it comes too late exactly if the session is closed and it is served from
  a configuration, applies a policy or initialises. -/
  sessionClosed : (g.operate x op).1.error? = some .sessionClosed ↔
    x.session.phase = .closed ∧ (op.serves = true ∨ (∃ u, op = .applyPolicy u) ∨
      (op = .beginInit ∧ x.session.underway = none))
  /-- Whatever is told to be too early or too late changes nothing at all. -/
  refused : ∀ e, (g.operate x op).1.error? = some e → e.ofLifecycle = true →
    (g.operate x op).2 = x

/-- In order, and with a store that fails with errors of its own, an operation is punctual. -/
theorem Orderly.punctual {g : Gateway α} {x : Station} {connected : Prop} {op : Operation}
    (h : Orderly g x connected op) (apart : g.FailsApart x op) : Punctual g x op := by
  constructor
  · rw [h.notInitialized, or_iff_left (apart.not_storeFails rfl)]
  · rw [h.sessionClosed, or_iff_left (apart.not_storeFails rfl)]
  · intro e told ofLifecycle
    have refusal := GatewayError.isRefusal_of_ofLifecycle ofLifecycle
    exact (h.refused e told ofLifecycle).resolve_right (apart.not_storeFails refusal)

theorem refused_notInitialized_iff {s : Session} {op : Operation} :
    Refused s op .notInitialized ↔ op.serves = true ∧ s.phase = .uninitialized := by
  constructor
  · rintro ⟨serves, unready⟩
    simp only [config_eq_error_iff, reduceCtorEq, and_true, and_false, or_false] at unready
    exact ⟨serves, unready⟩
  · rintro ⟨serves, fresh⟩
    exact .unserved serves (by simp [config_eq_error_iff, fresh])

theorem refused_sessionClosed_iff {s : Session} {op : Operation} :
    Refused s op .sessionClosed ↔ s.phase = .closed ∧
      (op.serves = true ∨ (∃ u, op = .applyPolicy u) ∨ (op = .beginInit ∧ s.underway = none)) := by
  constructor
  · intro refused
    cases refused with
    | unserved serves unready =>
      simp only [config_eq_error_iff, reduceCtorEq, and_true, and_false, false_or] at unready
      exact ⟨unready, .inl serves⟩
    | policy u closed => exact ⟨closed, .inr (.inl ⟨u, rfl⟩)⟩
    | init free closed => exact ⟨closed, .inr (.inr ⟨rfl, free⟩)⟩
  · rintro ⟨closed, serves | ⟨u, rfl⟩ | ⟨rfl, free⟩⟩
    · exact .unserved serves (by simp [config_eq_error_iff, closed])
    · exact .policy u closed
    · exact .init free closed

/-- **The lifecycle of a gateway.**  Whatever operations came before, in whatever order and
with a store that fails as it likes and with whatever error, the next one is in order.  It is
punctual as well if the store, should it fail now, does so with an error of its own. -/
theorem lifecycle_orderly (g : Gateway α) {start : Station} (new : start.New)
    (past : List Operation) (op : Operation) :
    Orderly g (g.station start past) (g.Connected start past) op ∧
      (g.FailsApart (g.station start past) op → Punctual g (g.station start past) op) := by
  have sound := sound_station g new past
  have sound' := sound_station g new (past ++ [op])
  rw [Gateway.station_concat] at sound'
  generalize g.station start past = x at sound sound' ⊢
  suffices orderly : Orderly g x (g.Connected start past) op from ⟨orderly, orderly.punctual⟩
  constructor
  case connects =>
    intro calls
    obtain ⟨-, -, fresh⟩ := of_calls_connect g calls
    exact ⟨fresh, sound.fresh fresh⟩
  case failed =>
    rintro e rfl begun
    have fresh := sound.connecting begun
    have ended : (g.operate x (.finishInit (some e))) =
        (.done (.error e), { x with session := { x.session with underway := none } }) := by
      simp [Gateway.operate, Gateway.finishInit, begun]
    rw [ended]
    exact ⟨rfl, fresh, calls_connect g rfl fresh⟩
  case succeeded =>
    rintro rfl begun
    simp [Gateway.operate, Gateway.finishInit, begun]
  case closes =>
    intro calls
    obtain ⟨-, -, served, ready⟩ := of_calls_close g calls
    exact sound.served served ready
  case closes_le => exact sound'.closes_le
  case closed => exact sound.closed (shift_operate g x op)
  case reclosed =>
    rintro rfl free closed
    have unblocked : ¬ x.session.underway.isSome := by simp [free]
    simp only [Gateway.operate, Session.beginClose, if_neg unblocked, closed]
    rw [← closed]
  case notInitialized => rw [error?_operate_iff g rfl, refused_notInitialized_iff]
  case sessionClosed => rw [error?_operate_iff g rfl, refused_sessionClosed_iff]
  case policies =>
    rintro u rfl unclosed
    simp [Gateway.operate, Session.applyPolicy, unclosed]
  case waits =>
    rintro (rfl | rfl) busy
    · simp [Gateway.operate, Session.beginInit, Option.isSome_iff_ne_none, busy]
    · simp [Gateway.operate, Session.beginClose, Option.isSome_iff_ne_none, busy]
  case refused =>
    intro e told ofLifecycle
    rcases (error?_operate_iff g ofLifecycle).1 told with refused | fails
    · exact .inl (operate_of_refused g refused).2
    · exact .inr fails

/-- A store that fails to connect may say that the session is closed, and so the caller is told,
although the session is fresh. -/
example : (narrowGateway.operate (narrowGateway.station {} [.beginInit])
      (.finishInit (some .sessionClosed))).1.error? = some .sessionClosed ∧
    (narrowGateway.station {} [.beginInit]).session.phase = .uninitialized := ⟨rfl, rfl⟩

/-- A store fails to connect at first, and says that the session is closed.  A reload comes too
early, and a policy comes while the store is being connected once more; then the gateway is
closed, and its store is still being closed at the end. -/
def troubledOperations : List Operation :=
  [.beginInit, .reload narrowGateway.config, .finishInit (some .sessionClosed), .beginInit,
    .applyPolicy ⟨"k", .revoke, none⟩, .finishInit none, .beginClose]

/-- The gateway after that. -/
def troubledStation : Station := narrowGateway.station {} troubledOperations

/-- A reload comes too late then, and is punctual; and so is the end of the closing, at which the
store fails with an error of its own. -/
theorem lifecycle_orderly_troubled :
    Station.New {} ∧
      Orderly narrowGateway troubledStation (narrowGateway.Connected {} troubledOperations)
        (.reload narrowGateway.config) ∧
      narrowGateway.Connected {} troubledOperations ∧
      troubledStation.session.storeCalls = [.connect, .connect, .close] ∧
      (narrowGateway.operate troubledStation (.reload narrowGateway.config)).1.error? =
        some .sessionClosed ∧
      (narrowGateway.operate troubledStation (.reload narrowGateway.config)).2 =
        troubledStation ∧
      narrowGateway.StoreFails troubledStation (.finishClose (some (.store "down")))
        (.store "down") ∧
      Punctual narrowGateway troubledStation (.finishClose (some (.store "down"))) := by
  have new : Station.New {} := ⟨rfl, rfl, rfl, rfl⟩
  obtain ⟨orderly, punctual⟩ :
      Orderly narrowGateway troubledStation (narrowGateway.Connected {} troubledOperations)
          (.reload narrowGateway.config) ∧
        (narrowGateway.FailsApart troubledStation (.reload narrowGateway.config) →
          Punctual narrowGateway troubledStation (.reload narrowGateway.config)) :=
    lifecycle_orderly narrowGateway new troubledOperations (.reload narrowGateway.config)
  have connected : narrowGateway.Connected {} troubledOperations :=
    ⟨troubledOperations.take 5, ⟨[.beginClose], rfl⟩, rfl⟩
  -- to reload asks the store for nothing
  have apart : narrowGateway.FailsApart troubledStation (.reload narrowGateway.config) := by
    intro e fails
    cases fails with
    | asked asks => cases asks
  have told := (punctual apart).sessionClosed.2 ⟨rfl, .inl rfl⟩
  have apart' : narrowGateway.FailsApart troubledStation
      (.finishClose (some (.store "down"))) := by
    intro e fails
    cases fails with
    | close => rfl
    | asked asks => cases asks
  exact ⟨new, orderly, connected, rfl, told, (punctual apart).refused _ told rfl, .close rfl,
    (lifecycle_orderly narrowGateway new troubledOperations _).2 apart'⟩

end ChatGateway

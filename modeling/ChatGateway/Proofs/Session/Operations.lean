import ChatGateway.Proofs.Session.Fallback

/-!
# Gateways at work

Callers use a gateway side by side.  To initialise or to close it is to call the store,
which takes time and may fail; from its beginning to its end such an operation has the
lifecycle for itself, and another one waits.  All other operations may come in between:
each is over at once, except for a call that waits for its provider, and that one is a
value of its own until the provider replies.

What an operation can do to the lifecycle and to the revocations is classified once, by
`Shift`; statements about whole runs are inductions over it.

## Main definitions

* `Station` — a session and the line to its providers.
* `Operation`, `Answer`, `Gateway.operate` — what may happen, and what is answered.
* `Gateway.station` — what a row of operations leads to.
* `Dealings`, `Gateway.dealings` — the same with all answers kept, so that replies go to calls.
* `Standing`, `Shift` — what an operation can do to the lifecycle and to the revocations.
-/

namespace ChatGateway

/-- A gateway at work: its session, and the line to its providers. -/
structure Station where
  session : Session := {}
  line : Line := {}

/-- What may happen to a gateway at work. -/
inductive Operation where
  /-- A caller begins to initialise, as soon as nobody else has the lifecycle. -/
  | beginInit
  /-- The store was connected, or failed with some error. -/
  | finishInit (fault : Option GatewayError)
  /-- A caller begins to close, as soon as nobody else has the lifecycle. -/
  | beginClose
  /-- The store was closed, or failed with some error. -/
  | finishClose (fault : Option GatewayError)
  | reload (config : Config)
  | applyPolicy (u : PolicyUpdate)
  | config
  | usage (key : String)
  /-- A call begins. -/
  | chat (key model : String) (messages : List Message) (temperature : Option Binary)
    (maxTokens : Option UInt32)
  /-- The provider of a waiting call replies, and its call goes on. -/
  | reply (w : Waiting) (ask : Providers Line)
  /-- The clock goes on, and so does the store: it is shared with others, and may fail. -/
  | outside (now : Instant) (store : QuotaStore) (faults : StoreMethod → Option GatewayError)

/-- What is answered to an operation. -/
inductive Answer where
  /-- Nothing is answered yet. -/
  | silent
  | done (result : Except GatewayError Unit)
  | config (result : Except GatewayError Config)
  | usage (result : Except GatewayError (Option QuotaUsage))
  /-- How far a call has come. -/
  | call (progress : Progress)

/-- The error that is answered. -/
def Answer.error? : Answer → Option GatewayError
  | done (.error e) | config (.error e) | usage (.error e) | call (.done (.error e)) => some e
  | _ => none

/-- A call that is answered with an error is over. -/
theorem Answer.done_of_error? {progress : Progress} {e : GatewayError}
    (failed : (call progress).error? = some e) : progress = .done (.error e) := by
  cases progress with
  | waiting w => cases failed
  | done outcome =>
    cases outcome with
    | ok response => cases failed
    | error e' =>
      obtain rfl := Option.some.inj failed
      rfl

namespace Gateway

variable {α : Type} (g : Gateway α)

/-- Carry out an operation.  One that has to wait for the lifecycle does nothing, and the
end of a call of the store ends nothing else. -/
def operate (x : Station) : Operation → Answer × Station
  | .beginInit =>
    match x.session.beginInit with
    | (.settled answer, s) => (.done answer, { x with session := s })
    | (_, s) => (.silent, { x with session := s })
  | .finishInit fault =>
    if x.session.underway = some .connect then
      let (answer, s) := g.finishInit fault x.session
      (.done answer, { x with session := s })
    else (.silent, x)
  | .beginClose =>
    match x.session.beginClose with
    | (.settled answer, s) => (.done answer, { x with session := s })
    | (_, s) => (.silent, { x with session := s })
  | .finishClose fault =>
    if x.session.underway = some .close then
      let (answer, s) := x.session.finishClose fault
      (.done answer, { x with session := s })
    else (.silent, x)
  | .reload config =>
    let (answer, s) := x.session.reload config
    (.done answer, { x with session := s })
  | .applyPolicy u =>
    let (answer, s) := x.session.applyPolicy u
    (.done answer, { x with session := s })
  | .config => (.config x.session.config, x)
  | .usage key =>
    let (answer, s) := x.session.usage key
    (.usage answer, { x with session := s })
  | .chat key model messages temperature maxTokens =>
    let (progress, s) := g.chat x.session key model messages temperature maxTokens
    (.call progress, { x with session := s })
  | .reply w ask =>
    let (turn, line) := ask x.line x.session.now w.dispatch
    let (progress, s) := g.answer w turn.reply turn.latencyMs (x.session.atTime turn.now)
    (.call progress, ⟨s, line⟩)
  | .outside now store faults =>
    (.silent, { x with session := { x.session with now := now, store := store, faults := faults } })

/-- What a row of operations leads to. -/
def station (x : Station) (ops : List Operation) : Station :=
  ops.foldl (fun x op => (g.operate x op).2) x

@[simp] theorem station_nil (x : Station) : g.station x [] = x := rfl

@[simp] theorem station_concat (x : Station) (ops : List Operation) (op : Operation) :
    g.station x (ops ++ [op]) = (g.operate (g.station x ops) op).2 := by
  simp [station]

end Gateway

/-- A gateway at work, with all that it has answered. -/
structure Dealings where
  station : Station
  answers : List Answer := []

/-- What may happen to it. -/
inductive Move where
  /-- The provider replies to the call that the `n`-th answer has left waiting. -/
  | reply (n : Nat) (ask : Providers Line)
  /-- Anything may happen. -/
  | operate (op : Operation)

/-- The operation that a move stands for; a reply to a call that does not wait is none. -/
def Dealings.operation? (x : Dealings) : Move → Option Operation
  | .reply n ask =>
    match x.answers[n]? with
    | some (.call (.waiting w)) => some (.reply w ask)
    | _ => none
  | .operate op => some op

namespace Gateway

variable {α : Type} (g : Gateway α)

/-- Make a move, and keep the answer. -/
def deal (x : Dealings) (move : Move) : Dealings :=
  match x.operation? move with
  | some op => ⟨(g.operate x.station op).2, x.answers ++ [(g.operate x.station op).1]⟩
  | none => x

/-- What a row of moves leads to. -/
def dealings (x : Dealings) (moves : List Move) : Dealings :=
  moves.foldl g.deal x

theorem dealings_cons (x : Dealings) (move : Move) (moves : List Move) :
    g.dealings x (move :: moves) = g.dealings (g.deal x move) moves := rfl

end Gateway

/-- The text of the error with which the last call was answered, if it was. -/
def Dealings.lastMessage? (x : Dealings) : Option String :=
  match x.answers.getLast? with
  | some (.call (.done (.error e))) => some e.message
  | _ => none

/-- A gateway that was just set up. -/
structure Station.New (x : Station) : Prop where
  phase_eq : x.session.phase = .uninitialized
  underway_eq : x.session.underway = none
  revocations_eq : x.session.revocations = .empty
  storeCalls_eq : x.session.storeCalls = []

/-! ## The standing of a session -/

/-- Where a session stands in its lifecycle, how often its store was connected and closed,
and which keys are revoked. -/
structure Standing where
  phase : Phase
  underway : Option StoreMethod
  revocations : Revocations
  connects : Nat
  closes : Nat

/-- The standing of a session. -/
def Session.standing (s : Session) : Standing :=
  ⟨s.phase, s.underway, s.revocations, s.storeCalls.count .connect, s.storeCalls.count .close⟩

/-- All that an operation can do to a standing. -/
inductive Shift (config : Config) (x : Standing) : Operation → Standing → Prop
  /-- Nothing: it is no end of a connection, and no update that is accepted. -/
  | rest (op : Operation) (unconnected : op = .finishInit none → x.underway ≠ some .connect)
    (refused : ∀ u, op = .applyPolicy u → x.phase = .closed) : Shift config x op x
  | connect (free : x.underway = none) (fresh : x.phase = .uninitialized) :
    Shift config x .beginInit { x with underway := some .connect, connects := x.connects + 1 }
  | connected (begun : x.underway = some .connect) :
    Shift config x (.finishInit none) { x with phase := .ready config, underway := none }
  | unconnected (e : GatewayError) (begun : x.underway = some .connect) :
    Shift config x (.finishInit (some e)) { x with underway := none }
  | close (free : x.underway = none) (served : Config) (ready : x.phase = .ready served) :
    Shift config x .beginClose
      { x with phase := .closed, underway := some .close, closes := x.closes + 1 }
  /-- A session that is not ready is closed without its store. -/
  | shut (free : x.underway = none) (unready : ∀ served, x.phase ≠ .ready served) :
    Shift config x .beginClose { x with phase := .closed }
  | closed (fault : Option GatewayError) (begun : x.underway = some .close) :
    Shift config x (.finishClose fault) { x with underway := none }
  | reload (next served : Config) (ready : x.phase = .ready served) :
    Shift config x (.reload next) { x with phase := .ready next }
  | policy (u : PolicyUpdate) (unclosed : x.phase ≠ .closed) :
    Shift config x (.applyPolicy u) { x with revocations := x.revocations.apply u }

/-! ## Calls keep the standing -/

section Calls

variable {α : Type} (g : Gateway α)

theorem standing_reserve (s : Session) (config : Config) (key : String) (tokens cost : UInt64) :
    (s.reserve config key tokens cost).2.standing = s.standing := by
  simp only [Session.reserve, Session.enter]
  split <;> simp [Session.standing]

theorem standing_record (s : Session) (r : Reservation) (tokens cost : UInt64) :
    (s.record r tokens cost).standing = s.standing := by
  simp only [Session.record, Session.enter]
  split <;> simp [Session.standing]

theorem standing_walk (call : Call) (trail : Trail) (s : Session) (candidates : List String) :
    (g.walk call trail s candidates).2.standing = s.standing := by
  induction candidates generalizing trail s with
  | nil => rfl
  | cons candidate rest ih =>
    simp only [Gateway.walk]
    split
    · exact ih _ _
    · rename_i route secret reached
      have kept := standing_reserve s call.config call.key
        (ChatRequest.estimatedTokens { call.request with model := route.model })
        (g.pricing.estimate route.model
          (ChatRequest.estimatedTokens { call.request with model := route.model }))
      split <;> rename_i answered <;> rw [answered] at kept
      · exact kept
      · rw [ih, kept]
      · exact kept

theorem standing_chat (s : Session) (key model : String) (messages : List Message)
    (temperature : Option Binary) (maxTokens : Option UInt32) :
    (g.chat s key model messages temperature maxTokens).2.standing = s.standing := by
  rw [Gateway.chat_eq]
  split
  · rfl
  · exact standing_walk g _ _ _ _

theorem standing_answer (w : Waiting) (reply : Except ProviderError ChatResponse)
    (latencyMs : UInt64) (s : Session) :
    (g.answer w reply latencyMs s).2.standing = s.standing := by
  unfold Gateway.answer
  split
  · exact standing_record s w.reservation _ _
  · split
    · exact standing_walk g _ _ _ _
    · rfl

end Calls

/-! ## Every operation is a shift -/

section Shifts

variable {α : Type} (g : Gateway α)

theorem shift_beginInit (x : Station) :
    Shift g.config x.session.standing .beginInit (g.operate x .beginInit).2.session.standing := by
  have waits : Shift g.config x.session.standing .beginInit x.session.standing :=
    .rest _ (by simp) (by simp)
  simp only [Gateway.operate, Session.beginInit]
  by_cases busy : x.session.underway.isSome
  · rw [if_pos busy]
    exact waits
  · have free : x.session.underway = none := by simpa using busy
    rw [if_neg busy]
    cases phase : x.session.phase with
    | ready config => exact waits
    | closed => exact waits
    | uninitialized =>
      have begun : Shift g.config x.session.standing .beginInit _ := .connect free phase
      simpa [Session.standing, Session.enter, phase] using begun

theorem shift_beginClose (x : Station) :
    Shift g.config x.session.standing .beginClose
      (g.operate x .beginClose).2.session.standing := by
  simp only [Gateway.operate, Session.beginClose]
  by_cases busy : x.session.underway.isSome
  · rw [if_pos busy]
    exact .rest _ (by simp) (by simp)
  · have free : x.session.underway = none := by simpa using busy
    rw [if_neg busy]
    cases phase : x.session.phase with
    | ready served =>
      have begun : Shift g.config x.session.standing .beginClose _ := .close free served phase
      simpa [Session.standing, Session.enter] using begun
    | closed =>
      have unready : ∀ served, x.session.standing.phase ≠ .ready served := by
        simp [Session.standing, phase]
      exact Shift.shut (x := x.session.standing) free unready
    | uninitialized =>
      have unready : ∀ served, x.session.standing.phase ≠ .ready served := by
        simp [Session.standing, phase]
      exact Shift.shut (x := x.session.standing) free unready

/-- All that an operation does to the standing of a session. -/
theorem shift_operate (x : Station) (op : Operation) :
    Shift g.config x.session.standing op (g.operate x op).2.session.standing := by
  cases op with
  | beginInit => exact shift_beginInit g x
  | beginClose => exact shift_beginClose g x
  | finishInit fault =>
    simp only [Gateway.operate]
    by_cases begun : x.session.underway = some .connect
    · rw [if_pos begun]
      cases fault with
      | none => exact Shift.connected (x := x.session.standing) begun
      | some e => exact Shift.unconnected (x := x.session.standing) e begun
    · rw [if_neg begun]
      exact .rest _ (fun _ => begun) (by simp)
  | finishClose fault =>
    simp only [Gateway.operate]
    by_cases begun : x.session.underway = some .close
    · rw [if_pos begun]
      have ended : Shift g.config x.session.standing (.finishClose fault) _ := .closed fault begun
      cases fault with
      | none => exact ended
      | some e => exact ended
    · rw [if_neg begun]
      exact .rest _ (by simp) (by simp)
  | reload next =>
    simp only [Gateway.operate, Session.reload, Session.config]
    cases phase : x.session.phase with
    | ready served => exact Shift.reload (x := x.session.standing) next served phase
    | closed => exact .rest _ (by simp) (by simp)
    | uninitialized => exact .rest _ (by simp) (by simp)
  | applyPolicy u =>
    simp only [Gateway.operate, Session.applyPolicy]
    by_cases closed : x.session.phase = .closed
    · rw [if_pos closed]
      exact .rest _ (by simp) (fun _ _ => closed)
    · rw [if_neg closed]
      exact Shift.policy (x := x.session.standing) u closed
  | config => exact .rest _ (by simp) (by simp)
  | usage key =>
    have kept : (g.operate x (.usage key)).2.session.standing = x.session.standing := by
      simp only [Gateway.operate, Session.usage, Session.enter]
      split
      · rfl
      · split <;> simp [Session.standing]
    rw [kept]
    exact .rest _ (by simp) (by simp)
  | chat key model messages temperature maxTokens =>
    have kept := standing_chat g x.session key model messages temperature maxTokens
    simp only [Gateway.operate, kept]
    exact .rest _ (by simp) (by simp)
  | reply w ask =>
    have kept := fun turn : Turn =>
      standing_answer g w turn.reply turn.latencyMs (x.session.atTime turn.now)
    simp only [Gateway.operate, kept]
    exact .rest _ (by simp) (by simp)
  | outside now store faults => exact .rest _ (by simp) (by simp)

end Shifts

end ChatGateway

import ChatGateway.Proofs.Session.Lifecycle
import ChatGateway.Proofs.Session.Snapshot

/-!
# Reloading is starting afresh

A gateway keeps the configuration that it was set up with beside the one that it serves calls
from.  The first is looked at once, when the store is connected; after that a gateway that was
reloaded is no other than one that was set up with the new configuration over the counters,
the events, the cooldowns and the revocations that are there.

Two runs are compared, move by move.  They agree on all but how often the store was connected,
read and closed, and that is kept by every move.

## Main definitions

* `Session.Twin`, `Dealings.Twin` — sessions and runs between which there is no telling.
* `Session.Settled` — the configuration of the gateway has been looked at.
* `Station.anew` — what outlives a gateway, with no session begun.
* `reload_is_fresh_start` — a reloaded gateway and a fresh one.
-/

namespace ChatGateway

/-! ## Twins -/

/-- Two sessions agree on all but how often the store was connected, read and closed. -/
structure Session.Twin (s s' : Session) : Prop extends s.Alike s' where
  phase_eq : s'.phase = s.phase
  underway_eq : s'.underway = s.underway
  revocations_eq : s'.revocations = s.revocations

/-- Two stations with such sessions, and with lines in the same state. -/
structure Station.Twin (x x' : Station) : Prop where
  session : x.session.Twin x'.session
  line_eq : x'.line = x.line

/-- The same has been answered at two such stations. -/
structure Dealings.Twin (x x' : Dealings) : Prop where
  station : x.station.Twin x'.station
  answers_eq : x'.answers = x.answers

namespace Session.Twin

variable {s s' : Session}

/-- What keeps sessions alike, and the standing of each, keeps them twins. -/
theorem of_standing {r r' : Session} (h : s.Twin s') (alike : r.Alike r')
    (kept : r.standing = s.standing) (kept' : r'.standing = s'.standing) : r.Twin r' where
  toAlike := alike
  phase_eq := (congrArg Standing.phase kept').trans
    (h.phase_eq.trans (congrArg Standing.phase kept).symm)
  underway_eq := (congrArg Standing.underway kept').trans
    (h.underway_eq.trans (congrArg Standing.underway kept).symm)
  revocations_eq := (congrArg Standing.revocations kept').trans
    (h.revocations_eq.trans (congrArg Standing.revocations kept).symm)

theorem enter (h : s.Twin s') (m : StoreMethod) : (s.enter m).Twin (s'.enter m) :=
  ⟨h.toAlike.enter m, h.phase_eq, h.underway_eq, h.revocations_eq⟩

/-- Twins stay twins when the same is put into the lifecycle and the revocations of both. -/
theorem put (h : s.Twin s') (phase : Phase) (underway : Option StoreMethod)
    (revocations : Revocations) :
    Session.Twin { s with phase := phase, underway := underway, revocations := revocations }
      { s' with phase := phase, underway := underway, revocations := revocations } :=
  ⟨⟨h.store_eq, h.faults_eq, h.now_eq, h.events_eq, h.dispatches_eq, h.writes_eq⟩, rfl, rfl, rfl⟩

theorem atTime (h : s.Twin s') (now : Instant) : (s.atTime now).Twin (s'.atTime now) :=
  ⟨h.toAlike.atTime now, h.phase_eq, h.underway_eq, h.revocations_eq⟩

/-- The same when time and the store go on for both. -/
theorem outside (h : s.Twin s') (now : Instant) (store : QuotaStore)
    (faults : StoreMethod → Option GatewayError) :
    Session.Twin { s with now := now, store := store, faults := faults }
      { s' with now := now, store := store, faults := faults } :=
  ⟨⟨rfl, rfl, rfl, h.events_eq, h.dispatches_eq, h.writes_eq⟩, h.phase_eq, h.underway_eq,
    h.revocations_eq⟩

theorem config_eq (h : s.Twin s') : s'.config = s.config := by
  simp only [Session.config, h.phase_eq]

theorem open?_eq (h : s.Twin s') (key model : String) (messages : List Message)
    (temperature : Option Binary) (maxTokens : Option UInt32) :
    s'.open? key model messages temperature maxTokens =
      s.open? key model messages temperature maxTokens := by
  simp only [Session.open?, h.config_eq, h.revocations_eq]

end Session.Twin

section Operations

variable {α : Type} (g : Gateway α)

theorem twin_chat {s s' : Session} (h : s.Twin s') (key model : String) (messages : List Message)
    (temperature : Option Binary) (maxTokens : Option UInt32) :
    (g.chat s' key model messages temperature maxTokens).1 =
        (g.chat s key model messages temperature maxTokens).1 ∧
      (g.chat s key model messages temperature maxTokens).2.Twin
        (g.chat s' key model messages temperature maxTokens).2 := by
  have told : (g.chat s' key model messages temperature maxTokens).1 =
        (g.chat s key model messages temperature maxTokens).1 ∧
      (g.chat s key model messages temperature maxTokens).2.Alike
        (g.chat s' key model messages temperature maxTokens).2 := by
    rw [Gateway.chat_eq, Gateway.chat_eq, h.open?_eq]
    cases s.open? key model messages temperature maxTokens with
    | error e => exact ⟨rfl, h.toAlike⟩
    | ok call => exact alike_walk g call {} h.toAlike call.candidates
  exact ⟨told.1, h.of_standing told.2 (standing_chat g s key model messages temperature maxTokens)
    (standing_chat g s' key model messages temperature maxTokens)⟩

theorem twin_answer {s s' : Session} (h : s.Twin s') (w : Waiting)
    (reply : Except ProviderError ChatResponse) (latencyMs : UInt64) :
    (g.answer w reply latencyMs s').1 = (g.answer w reply latencyMs s).1 ∧
      (g.answer w reply latencyMs s).2.Twin (g.answer w reply latencyMs s').2 := by
  obtain ⟨told, alike⟩ := alike_answer g w reply latencyMs h.toAlike
  exact ⟨told, h.of_standing alike (standing_answer g w reply latencyMs s)
    (standing_answer g w reply latencyMs s')⟩

theorem twin_usage {s s' : Session} (h : s.Twin s') (key : String) :
    (s'.usage key).1 = (s.usage key).1 ∧ (s.usage key).2.Twin (s'.usage key).2 := by
  have faults : (s'.enter .usage).faults = (s.enter .usage).faults := h.faults_eq
  have store : (s'.enter .usage).store = (s.enter .usage).store := h.store_eq
  have now : (s'.enter .usage).now = (s.enter .usage).now := h.now_eq
  simp only [Session.usage, h.config_eq, faults, store, now]
  cases s.config with
  | error e => exact ⟨rfl, h⟩
  | ok config => cases (s.enter .usage).faults .usage <;> exact ⟨rfl, h.enter .usage⟩

/-- An operation is answered the same to twins, and leaves them twins. -/
theorem twin_operate {x x' : Station} (h : x.Twin x') (op : Operation) :
    (g.operate x' op).1 = (g.operate x op).1 ∧ (g.operate x op).2.Twin (g.operate x' op).2 := by
  obtain ⟨session, lines⟩ := h
  obtain ⟨⟨phase, underway, revocations, store, faults, now⟩, line⟩ := x
  obtain ⟨⟨phase', underway', revocations', store', faults', now'⟩, line'⟩ := x'
  obtain rfl : phase' = phase := session.phase_eq
  obtain rfl : underway' = underway := session.underway_eq
  obtain rfl : revocations' = revocations := session.revocations_eq
  obtain rfl : now' = now := session.now_eq
  obtain rfl : line' = line := lines
  -- both lifecycles are one from here on, so each case of it is the same for both
  cases op with
  | beginInit =>
    cases underway' with
    | some m => exact ⟨rfl, session, rfl⟩
    | none =>
      cases phase' with
      | uninitialized => exact ⟨rfl, (session.enter .connect).put _ _ _, rfl⟩
      | _ => exact ⟨rfl, session, rfl⟩
  | finishInit fault =>
    cases underway' with
    | none => exact ⟨rfl, session, rfl⟩
    | some m =>
      cases m with
      | connect => cases fault <;> exact ⟨rfl, session.put _ _ _, rfl⟩
      | _ => exact ⟨rfl, session, rfl⟩
  | beginClose =>
    cases underway' with
    | some m => exact ⟨rfl, session, rfl⟩
    | none =>
      cases phase' with
      | uninitialized => exact ⟨rfl, session.put _ _ _, rfl⟩
      | ready config => exact ⟨rfl, (session.enter .close).put _ _ _, rfl⟩
      | closed => exact ⟨rfl, session, rfl⟩
  | finishClose fault =>
    cases underway' with
    | none => exact ⟨rfl, session, rfl⟩
    | some m =>
      cases m with
      | close => cases fault <;> exact ⟨rfl, session.put _ _ _, rfl⟩
      | _ => exact ⟨rfl, session, rfl⟩
  | reload next =>
    cases phase' with
    | ready config => exact ⟨rfl, session.put _ _ _, rfl⟩
    | _ => exact ⟨rfl, session, rfl⟩
  | applyPolicy u =>
    cases phase' with
    | closed => exact ⟨rfl, session, rfl⟩
    | _ => exact ⟨rfl, session.put _ _ _, rfl⟩
  | config => exact ⟨rfl, session, rfl⟩
  | usage key =>
    obtain ⟨told, after⟩ := twin_usage session key
    exact ⟨congrArg Answer.usage told, after, rfl⟩
  | chat key model messages temperature maxTokens =>
    obtain ⟨told, after⟩ := twin_chat g session key model messages temperature maxTokens
    exact ⟨congrArg Answer.call told, after, rfl⟩
  | reply w ask =>
    let turn := (ask line' now' w.dispatch).1
    obtain ⟨told, after⟩ := twin_answer g (session.atTime turn.now) w turn.reply turn.latencyMs
    exact ⟨congrArg Answer.call told, after, rfl⟩
  | outside now store faults => exact ⟨rfl, session.outside now store faults, rfl⟩

end Operations

/-! ## The configuration of the gateway -/

/-- The store was connected, so the configuration of the gateway is not looked at again. -/
structure Standing.Settled (x : Standing) : Prop where
  begun : x.phase ≠ .uninitialized
  connected : x.underway ≠ some .connect

theorem Standing.Settled.shift {config : Config} {x z : Standing} {op : Operation}
    (h : x.Settled) (shift : Shift config x op z) : z.Settled := by
  cases shift with
  | rest => exact h
  | connect free fresh => exact absurd fresh h.begun
  | connected begun => exact absurd begun h.connected
  | unconnected text begun => exact absurd begun h.connected
  | close => exact ⟨by simp, by simp⟩
  | shut free => exact ⟨by simp, h.connected⟩
  | closed => exact ⟨h.begun, by simp⟩
  | reload => exact ⟨by simp, h.connected⟩
  | policy => exact ⟨h.begun, h.connected⟩

/-- No lifecycle operation is under way while calls are served. -/
def Standing.Free (x : Standing) : Prop :=
  ∀ config, x.phase = .ready config → x.underway = none

theorem Standing.Free.shift {config : Config} {x z : Standing} {op : Operation}
    (h : x.Free) (shift : Shift config x op z) : z.Free := by
  intro served ready
  cases shift with
  | rest => exact h served ready
  | connect free fresh =>
    rw [show x.phase = .ready served from ready] at fresh
    cases fresh
  | connected => rfl
  | unconnected => rfl
  | close => cases ready
  | shut => cases ready
  | closed => rfl
  | reload next before wasReady => exact h before wasReady
  | policy => exact h served ready

section Configurations

variable {α : Type} (g : Gateway α) (config : Config)

theorem walk_withConfig (call : Call) (trail : Trail) (s : Session) (candidates : List String) :
    Gateway.walk { g with config := config } call trail s candidates =
      g.walk call trail s candidates := by
  have reached : Gateway.reach { g with config := config } = g.reach := rfl
  induction candidates generalizing trail s with
  | nil => rfl
  | cons candidate rest ih => simp only [Gateway.walk, reached, ih]

/-- A gateway that is settled does the same whatever configuration it was set up with. -/
theorem operate_withConfig {x : Station} (settled : x.session.standing.Settled)
    (op : Operation) : Gateway.operate { g with config := config } x op = g.operate x op := by
  cases op with
  | finishInit fault =>
    have connected : x.session.underway ≠ some .connect := settled.connected
    simp only [Gateway.operate, if_neg connected]
  | chat key model messages temperature maxTokens =>
    simp only [Gateway.operate, Gateway.chat, walk_withConfig]
  | reply w ask =>
    have answered : Gateway.answer { g with config := config } = g.answer := by
      funext w reply latencyMs s
      simp only [Gateway.answer, walk_withConfig]
      rfl
    simp only [Gateway.operate, answered]
  | _ => rfl

end Configurations

/-! ## Whole runs -/

section Runs

variable {α : Type} (g : Gateway α)

/-- What every operation keeps of the standing of a session is kept by all moves. -/
theorem standing_dealings {P : Standing → Prop}
    (kept : ∀ {x z op}, P x → Shift g.config x op z → P z) {x : Dealings}
    (h : P x.station.session.standing) (moves : List Move) :
    P (g.dealings x moves).station.session.standing := by
  induction moves generalizing x with
  | nil => exact h
  | cons move moves ih =>
    refine ih ?_
    simp only [Gateway.deal]
    cases x.operation? move with
    | none => exact h
    | some op => exact kept h (shift_operate g x.station op)

theorem operation?_eq {x x' : Dealings} (h : x.Twin x') (move : Move) :
    x'.operation? move = x.operation? move := by
  cases move <;> simp only [Dealings.operation?, h.answers_eq]

theorem twin_deal {config : Config} {x x' : Dealings} (h : x.Twin x')
    (settled : x'.station.session.standing.Settled) (move : Move) :
    (g.deal x move).Twin (Gateway.deal { g with config := config } x' move) := by
  simp only [Gateway.deal, operation?_eq h]
  cases x.operation? move with
  | none => exact h
  | some op =>
    obtain ⟨told, station⟩ := twin_operate g h.station op
    simp only [operate_withConfig g config settled]
    exact ⟨station, by simp only [h.answers_eq, told]⟩

/-- Twins go on as twins, also under gateways that were set up with different
configurations. -/
theorem twin_dealings {config : Config} {x x' : Dealings} (h : x.Twin x')
    (settled : x'.station.session.standing.Settled) (moves : List Move) :
    (g.dealings x moves).Twin (Gateway.dealings { g with config := config } x' moves) := by
  induction moves generalizing x x' with
  | nil => exact h
  | cons move moves ih =>
    refine ih (twin_deal g h settled move) ?_
    exact standing_dealings { g with config := config } Standing.Settled.shift settled [move]

end Runs

/-! ## Reloaded and fresh -/

/-- What outlives a gateway: the counters, the events, the revocations, the clock and the line,
with no session begun. -/
def Station.anew (x : Station) : Station :=
  { x with session := { x.session with phase := .uninitialized, underway := none } }

section Reloading

variable {α : Type} (g : Gateway α) {current : Config} (next : Config)

/-- A session that serves calls after any moves has the lifecycle for itself. -/
theorem underway_of_ready {start : Station} (new : start.New) {past : List Move}
    (ready : (g.dealings ⟨start, []⟩ past).station.session.phase = .ready current) :
    (g.dealings ⟨start, []⟩ past).station.session.underway = none := by
  have begins : start.session.standing.Free := fun config begun => by
    rw [show start.session.standing.phase = .uninitialized from new.phase_eq] at begun
    cases begun
  have ends : (g.dealings ⟨start, []⟩ past).station.session.standing.Free :=
    standing_dealings g Standing.Free.shift begins past
  exact ends current ready

theorem operate_reload {x : Station} (ready : x.session.phase = .ready current) :
    g.operate x (.reload next) =
      (.done (.ok ()), { x with session := { x.session with phase := .ready next } }) := by
  simp only [Gateway.operate, Session.reload, Session.config, ready]

/-- A gateway that is set up anew differs from a reloaded one in this alone: its store was
connected once more. -/
theorem twin_anew {x : Station} (free : x.session.underway = none) :
    Station.Twin { x with session := { x.session with phase := .ready next } }
      (Gateway.station { g with config := next } x.anew [.beginInit, .finishInit none]) := by
  have connects : Gateway.station { g with config := next } x.anew
      [.beginInit, .finishInit none] =
      { x with session := { x.session.enter .connect with
          phase := .ready next, underway := none } } := rfl
  have writes : (x.session.enter .connect).writes = x.session.writes := by
    simp [Session.writes, Session.enter, StoreMethod.writes]
  rw [connects]
  exact ⟨⟨⟨rfl, rfl, rfl, rfl, rfl, writes⟩, rfl, free.symm, rfl⟩, rfl⟩

/-- **To reload is to start afresh.**  Let a gateway be ready after any moves.  Reloaded with
another configuration, it goes on as a gateway that is set up with this configuration over what
outlives the first one: whatever moves follow, all answers are the same, and so are the
requests to providers, the counters, the events, the cooldowns and the revocations.  Of several
configurations that are loaded the last counts, to load the one that is there changes nothing,
and to load any changes nothing else. -/
theorem reload_is_fresh_start {start : Station} (new : start.New) {past : List Move}
    {x : Dealings} (reached : g.dealings ⟨start, []⟩ past = x)
    (ready : x.station.session.phase = .ready current) :
    (∀ later, Dealings.Twin
      (g.dealings ⟨(g.operate x.station (.reload next)).2, x.answers⟩ later)
      (Gateway.dealings { g with config := next }
        ⟨Gateway.station { g with config := next } x.station.anew
          [.beginInit, .finishInit none], x.answers⟩ later)) ∧
    (∀ first, g.operate (g.operate x.station (.reload first)).2 (.reload next) =
      g.operate x.station (.reload next)) ∧
    (g.operate x.station (.reload current)).2 = x.station ∧
    g.operate x.station (.reload next) = (.done (.ok ()),
      { x.station with session := { x.station.session with phase := .ready next } }) := by
  have free : x.station.session.underway = none := by
    subst reached
    exact underway_of_ready g new ready
  refine ⟨fun later => ?_, fun first => ?_, ?_, operate_reload g next ready⟩
  · rw [operate_reload g next ready]
    have twins : Dealings.Twin ⟨_, x.answers⟩ ⟨_, x.answers⟩ := ⟨twin_anew g next free, rfl⟩
    exact twin_dealings g twins ⟨nofun, nofun⟩ later
  · rw [operate_reload g first ready, operate_reload g next ready]
    rfl
  · rw [operate_reload g current ready, ← ready]

end Reloading

/-- A gateway without limits. -/
def roomyGateway : Gateway Unit :=
  { narrowGateway with config := { apiKeys := .ofList [("p", "secret")] } }

/-- A provider that answers. -/
def readyLine : Providers Line :=
  fun line now _ => (⟨.ok {}, 5, now⟩, line)

/-- It serves one call. -/
def servedDealings : Dealings :=
  roomyGateway.dealings ⟨{}, []⟩ [.operate .beginInit, .operate (.finishInit none),
    .operate (.chat "k" "p/a" [] none none), .reply 2 readyLine]

/-- It is reloaded with limits of one request a minute. -/
def reloadedDealings : Dealings :=
  ⟨(roomyGateway.operate servedDealings.station (.reload narrowGateway.config)).2,
    servedDealings.answers⟩

/-- A gateway is set up with these limits. -/
def freshDealings : Dealings :=
  ⟨Gateway.station { roomyGateway with config := narrowGateway.config } servedDealings.station.anew
    [.beginInit, .finishInit none], servedDealings.answers⟩

theorem reload_is_fresh_start_narrow :
    servedDealings.station.session.phase = .ready roomyGateway.config ∧
    (roomyGateway.dealings reloadedDealings [.operate (.chat "k" "any" [] none none)]).Twin
      (Gateway.dealings { roomyGateway with config := narrowGateway.config } freshDealings
        [.operate (.chat "k" "any" [] none none)]) ∧
    (roomyGateway.dealings reloadedDealings
        [.operate (.chat "k" "any" [] none none)]).lastMessage? =
      some ("All candidates exhausted: "
        ++ "ghost -> unroutable: no provider registered for 'ghost'; "
        ++ "p/a -> quota denied for key 'k' on max_requests_per_minute "
        ++ "(1 used + 1 requested > 1); "
        ++ "p/b -> quota denied for key 'k' on max_requests_per_minute "
        ++ "(1 used + 1 requested > 1)") := by
  have new : Station.New {} := ⟨rfl, rfl, rfl, rfl⟩
  have ready : servedDealings.station.session.phase = .ready roomyGateway.config := by
    decide +kernel
  obtain ⟨twins, -⟩ := reload_is_fresh_start roomyGateway narrowGateway.config new rfl ready
  exact ⟨ready, twins _, by decide +kernel⟩

end ChatGateway

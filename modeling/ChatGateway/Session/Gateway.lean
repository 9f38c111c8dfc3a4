import ChatGateway.Config.Basic
import ChatGateway.Error
import ChatGateway.Chat.Basic
import ChatGateway.Quota.Pricing
import ChatGateway.Quota.Store
import ChatGateway.Quota.Window
import ChatGateway.Routing.Route
import ChatGateway.Session.Policy
import ChatGateway.Telemetry

/-!
# Sessions

A session begins uninitialised, becomes ready when its store is connected, and
ends closed for good.  A ready session serves calls from one configuration, which
may be exchanged; revocations and counters stay when it is.

Connecting and closing the store take time.  While one of them is under way the
other operations go on, except that no second one begins.

## Main definitions

* `Gateway` — what stays the same for the life of a session.
* `Session` — what changes.
* `Session.beginInit`, `Gateway.finishInit`, `Session.beginClose`,
  `Session.finishClose` — the lifecycle; `Gateway.init` and `Session.close` take
  both halves at once.
* `Session.reload`, `Session.applyPolicy`, `Session.usage`, `Session.config` — the
  other operations.
-/

namespace ChatGateway

/-- What stays the same for the life of a session. -/
structure Gateway (α : Type) where
  /-- The configuration of the first calls. -/
  config : Config
  registry : Registry α
  pricing : Pricing := .free
  env : Environment := {}

/-- Where a session stands. -/
inductive Phase where
  | uninitialized
  /-- Calls are served from a configuration. -/
  | ready (config : Config)
  | closed
  deriving DecidableEq

/-- The name of a phase. -/
def Phase.name : Phase → String
  | uninitialized => "Uninitialized"
  | ready _ => "Ready"
  | closed => "Closed"

/-- An operation of a store. -/
inductive StoreMethod where
  | connect
  | reserve
  | reconcile
  | usage
  | close
  deriving DecidableEq, Repr

/-- A request handed to a provider. -/
structure Dispatch where
  provider : String
  secret : String
  request : ChatRequest
  deriving DecidableEq

/-- What changes in the life of a session. -/
structure Session where
  phase : Phase := .uninitialized
  /-- The lifecycle operation of the store that is under way. -/
  underway : Option StoreMethod := none
  revocations : Revocations := .empty
  store : QuotaStore := {}
  /-- The operations of the store that fail now, each with an error of the store's own choice. -/
  faults : StoreMethod → Option GatewayError := fun _ => none
  now : Instant := .epoch
  events : EventLog := {}
  /-- The operations of the store that were called, in order. -/
  storeCalls : List StoreMethod := []
  /-- The requests that were handed to providers, in order. -/
  dispatches : List Dispatch := []

/-! ## Calling the store -/

namespace Session

/-- Note that an operation of the store is called. -/
def enter (s : Session) (m : StoreMethod) : Session :=
  { s with storeCalls := s.storeCalls ++ [m] }

/-- Ask the store to admit a call under the limits of a configuration.  An error of the
store is passed on as it is. -/
def reserve (s : Session) (config : Config) (key : String) (tokens cost : UInt64) :
    Except GatewayError Admission × Session :=
  let s := s.enter .reserve
  match s.faults .reserve with
  | some e => (.error e, s)
  | none =>
    let (answer, store) := s.store.reserve key (config.quotaFor key) (windowOf s.now) tokens cost
    (.ok answer, { s with store := store })

/-- Settle a call.  It was made already, so a failure of the store changes
nothing for the caller. -/
def record (s : Session) (r : Reservation) (tokens cost : UInt64) : Session :=
  let s := s.enter .reconcile
  match s.faults .reconcile with
  | some _ => s
  | none => { s with store := s.store.reconcile r (windowOf s.now) tokens cost }

/-! ## The lifecycle -/

/-- How a lifecycle operation begins. -/
inductive Opening where
  /-- Another one is under way and must end first. -/
  | blocked
  /-- It is over at once. -/
  | settled (answer : Except GatewayError Unit)
  /-- The store is being called. -/
  | calling

/-- Begin to initialise a session. -/
def beginInit (s : Session) : Opening × Session :=
  if s.underway.isSome then (.blocked, s)
  else
    match s.phase with
    | .ready _ => (.settled (.ok ()), s)
    | .closed => (.settled (.error .sessionClosed), s)
    | .uninitialized => (.calling, { s.enter .connect with underway := some .connect })

/-- Begin to close a session.  It is closed before the store is. -/
def beginClose (s : Session) : Opening × Session :=
  if s.underway.isSome then (.blocked, s)
  else
    let closed := { s with phase := .closed }
    match s.phase with
    | .ready _ => (.calling, { closed.enter .close with underway := some .close })
    | .uninitialized | .closed => (.settled (.ok ()), closed)

/-- End to close a session, with the error of the store if it failed. -/
def finishClose (fault : Option GatewayError) (s : Session) : Except GatewayError Unit × Session :=
  let s := { s with underway := none }
  match fault with
  | some e => (.error e, s)
  | none => (.ok (), s)

end Session

/-- End to initialise a session, with the error of the store if it failed; then the
session stays as it was. -/
def Gateway.finishInit {α : Type} (g : Gateway α) (fault : Option GatewayError) (s : Session) :
    Except GatewayError Unit × Session :=
  let s := { s with underway := none }
  match fault with
  | some e => (.error e, s)
  | none => (.ok (), { s with phase := .ready g.config })

/-- Initialise a session.  Nothing happens to one that waits for another lifecycle
operation. -/
def Gateway.init {α : Type} (g : Gateway α) (s : Session) : Except GatewayError Unit × Session :=
  match s.beginInit with
  | (.blocked, s) => (.ok (), s)
  | (.settled answer, s) => (answer, s)
  | (.calling, s) => g.finishInit (s.faults .connect) s

namespace Session

/-- Close a session.  Nothing happens to one that waits for another lifecycle
operation. -/
def close (s : Session) : Except GatewayError Unit × Session :=
  match s.beginClose with
  | (.blocked, s) => (.ok (), s)
  | (.settled answer, s) => (answer, s)
  | (.calling, s) => finishClose (s.faults .close) s

/-! ## The other operations -/

/-- The configuration that new calls are served from. -/
def config (s : Session) : Except GatewayError Config :=
  match s.phase with
  | .ready config => .ok config
  | .uninitialized => .error .notInitialized
  | .closed => .error .sessionClosed

/-- Serve new calls from another configuration. -/
def reload (s : Session) (config : Config) : Except GatewayError Unit × Session :=
  match s.config with
  | .ok _ => (.ok (), { s with phase := .ready config })
  | .error e => (.error e, s)

/-- Revoke or restore a key.  This may be done before the session is ready. -/
def applyPolicy (s : Session) (u : PolicyUpdate) : Except GatewayError Unit × Session :=
  if s.phase = .closed then (.error .sessionClosed, s)
  else (.ok (), { s with revocations := s.revocations.apply u })

/-- Whether a key is revoked. -/
def isRevoked (s : Session) (key : String) : Bool :=
  s.revocations.contains key

/-- What a key has consumed. -/
def usage (s : Session) (key : String) : Except GatewayError (Option QuotaUsage) × Session :=
  match s.config with
  | .error e => (.error e, s)
  | .ok _ =>
    let s := s.enter .usage
    match s.faults .usage with
    | some e => (.error e, s)
    | none => (.ok (s.store.usage? key (windowOf s.now)), s)

/-- Let an operation of the store fail from now on, or work again. -/
def setFault (s : Session) (m : StoreMethod) (fault : Option GatewayError) : Session :=
  { s with faults := fun m' => if m' = m then fault else s.faults m' }

end Session

/-- The description of a session shows its phase and its providers. -/
def Gateway.description {α : Type} (g : Gateway α) (s : Session) : String :=
  Text.titledOpen "Gateway" [
    ("status", s.phase.name),
    ("registry", g.registry.description)]

end ChatGateway

import ChatGateway.Config.Fault
import ChatGateway.Quota.Admission

/-!
# Errors

What an operation of the gateway may fail with.  A call that tries several
candidates keeps a trail with the reason why each was not used.

## Main definitions

* `ProviderError` — a failure that a provider reports.
* `Attempt`, `AttemptFailure` — one step of a trail.
* `GatewayError`, `GatewayError.message` — the causes and their texts.
-/

namespace ChatGateway

/-- A failure that a provider reports.  Only the provider knows whether another
candidate may do better. -/
structure ProviderError where
  provider : String
  /-- The status of the answer, if there was one. -/
  status : Option UInt16 := none
  /-- Whether the next candidate should be tried. -/
  retryable : Bool
  message : String
  deriving DecidableEq, Repr

/-- The text of a provider's failure. -/
def ProviderError.text (e : ProviderError) : String :=
  let status := match e.status with
    | some n => " (status " ++ (Numeral.ofNat n.toNat).text ++ ")"
    | none => ""
  (if e.retryable then "retryable" else "fatal") ++ " error from '" ++ e.provider ++ "'" ++ status
    ++ ": " ++ e.message

/-- Why a candidate leads nowhere. -/
inductive RoutingFault where
  /-- No provider serves the candidate. -/
  | unknownProvider (candidate : String)
  /-- The provider has no secret. -/
  | missingKey (provider : String)
  /-- A reason found outside, told by its text. -/
  | reported (text : String)
  deriving DecidableEq, Repr

/-- The text of a routing fault. -/
def RoutingFault.message : RoutingFault → String
  | unknownProvider candidate => "no provider registered for '" ++ candidate ++ "'"
  | missingKey provider => "no API key for provider '" ++ provider ++ "'"
  | reported text => text

/-- Why a candidate was not used. -/
inductive AttemptFailure where
  | denied (d : Denial)
  | provider (e : ProviderError)
  | unroutable (f : RoutingFault)
  deriving DecidableEq, Repr

/-- The text of a reason. -/
def AttemptFailure.message : AttemptFailure → String
  | denied d => d.message
  | provider e => e.text
  | unroutable f => "unroutable: " ++ f.message

/-- A candidate that was not used. -/
structure Attempt where
  candidate : String
  failure : AttemptFailure
  deriving DecidableEq, Repr

/-- The text of an attempt. -/
def Attempt.text (a : Attempt) : String :=
  a.candidate ++ " -> " ++ a.failure.message

/-- The text of a trail. -/
def trailText (attempts : List Attempt) : String :=
  if attempts.isEmpty then "no candidates" else "; ".intercalate (attempts.map Attempt.text)

/-- What an operation may fail with. -/
inductive GatewayError where
  /-- There is no configuration to work with. -/
  | configuration (fault : ConfigFault)
  /-- The session was not initialised. -/
  | notInitialized
  /-- The session is closed. -/
  | sessionClosed
  /-- The limits of a key do not admit the call. -/
  | quotaDenied (dimension : Dimension) (key : String)
  /-- A provider failed. -/
  | provider (e : ProviderError)
  /-- A candidate failed in a way that no other candidate would mend; the earlier
  attempts are those before it. -/
  | aborted (candidate : String) (e : ProviderError) (earlier : List Attempt)
  /-- The key is revoked. -/
  | keyRevoked (key : String) (reason : Option String)
  /-- No candidate could be used. -/
  | exhausted (attempts : List Attempt) (last : Option GatewayError)
  /-- The quota store failed. -/
  | store (text : String)
  /-- A component could not be set up. -/
  | internal (text : String)
  deriving Inhabited, Repr

namespace GatewayError

/-- The error of a refusal. -/
def ofDenial (d : Denial) : GatewayError :=
  .quotaDenied d.dimension d.key

/-- The text of an error. -/
def message : GatewayError → String
  | configuration fault => "Configuration error: " ++ fault.message
  | notInitialized => "Gateway not initialized. Call init() first."
  | sessionClosed => "Gateway session is closed"
  | quotaDenied dimension key =>
    "Quota exceeded for key '" ++ key ++ "' on " ++ dimension.limitName
  | provider e => "Provider error: " ++ e.text
  | aborted candidate e earlier =>
    "Aborted on '" ++ candidate ++ "': " ++ e.text ++ "; earlier attempts: " ++ trailText earlier
  | keyRevoked key reason =>
    "Key '" ++ key ++ "' is revoked" ++ (match reason with
      | some r => ": " ++ r
      | none => "")
  | exhausted attempts _ => "All candidates exhausted: " ++ trailText attempts
  | store text => "Quota store error: " ++ text
  | internal text => "Internal error: " ++ text

end GatewayError

end ChatGateway

import ChatGateway.Error
import ChatGateway.Http.Address
import ChatGateway.Http.Cooldown
import ChatGateway.Json.Decode
import ChatGateway.Text.Utf8

/-!
# Exchanges with a provider

A request is sent again when no connection is made or no answer comes in time, a
limited number of times.  An answer is never asked for twice, whatever its
status: it is a result, or a failure of which the status and the body decide
whether another candidate may do better.  While a provider is cooling down,
nothing is sent to it.

How the network behaves is an argument: the outcome of the first sending, of the
second, and so on.

## Main definitions

* `Delivery` — the outcome of one sending.
* `send` — the sendings of one request.
* `ExchangeFault` — why an exchange gives no result.
* `exchange` — a whole exchange, and the cooldowns after it.
-/

namespace ChatGateway

/-! ## Requests and answers -/

/-- A request that carries a JSON body. -/
structure HttpRequest where
  address : String
  /-- The headers besides the type of the body. -/
  headers : List (String × String)
  body : String
  deriving DecidableEq, Repr

/-- An answer. -/
structure HttpResponse where
  status : UInt16
  /-- The values of the header that announces a delay. -/
  retryAfter : List String := []
  body : List UInt8
  /-- When it came, in nanoseconds on a clock that only goes forward. -/
  receivedAt : Nat := 0
  deriving DecidableEq, Repr

/-- Whether a header may hold a value: no control character but the tab, and no
delete. -/
def isHeaderValue (s : String) : Bool :=
  s.toList.all fun c => c = '\t' || (0x20 ≤ c.toNat && c.toNat ≠ 0x7F)

/-- How a sending may fail. -/
inductive TransportFault where
  /-- No connection was made. -/
  | unconnected
  /-- No answer came in time. -/
  | timedOut
  /-- The connection ended before an answer. -/
  | dropped
  /-- An answer came, but did not come to its end in time. -/
  | stalled
  /-- The answer broke off. -/
  | truncated
  deriving DecidableEq, Repr

/-- Whether a request is sent again after a fault. -/
def TransportFault.isRepeated : TransportFault → Bool
  | unconnected | timedOut => true
  | dropped | stalled | truncated => false

/-- The outcome of one sending. -/
inductive Delivery where
  | failed (fault : TransportFault)
  | answered (r : HttpResponse)
  deriving DecidableEq, Repr

/-- Whether a request is sent again after an outcome. -/
def Delivery.isRepeated : Delivery → Bool
  | failed fault => fault.isRepeated
  | answered _ => false

/-- Send a request until an outcome stands, or nothing is left of the repeats.
The number of sendings is counted from those before. -/
def send (network : Nat → Delivery) : (repeats before : Nat) → Nat × Delivery
  | 0, before => (before + 1, network before)
  | repeats + 1, before =>
    if (network before).isRepeated then send network repeats (before + 1)
    else (before + 1, network before)

/-! ## Failures -/

/-- Why an exchange gives no result. -/
inductive ExchangeFault where
  /-- The provider is still cooling down, for so many nanoseconds. -/
  | coolingDown (left : Nat)
  /-- The secret cannot be put into a header. -/
  | unwritableKey
  /-- Nothing can be sent to the address, if the text is an address at all. -/
  | unusableAddress (address : Option String)
  | transport (fault : TransportFault) (address : String)
  /-- The answer is a result that cannot be read. -/
  | unreadable (status : UInt16) (e : ReadError) (body : String)
  | rateLimited (status : UInt16) (body : String)
  | transient (status : UInt16) (body : String)
  | unauthorized (status : UInt16) (body : String)
  | refused (status : UInt16) (body : String)
  deriving DecidableEq, Repr

namespace ExchangeFault

/-- The most characters of a body that a text quotes. -/
def quotedLength : Nat := 500

/-- The beginning of a body. -/
def excerpt (body : String) : String :=
  String.ofList (body.toList.take quotedLength)

/-- The text of a failed sending to an address. -/
def transportMessage (fault : TransportFault) (address : String) : String :=
  let sending := "error sending request for url (" ++ address ++ ")"
  let decoding := "error decoding response body"
  match fault with
  | .unconnected => "Connection failed: " ++ sending
  | .timedOut => "Request timeout: " ++ sending
  | .dropped => sending
  | .stalled => "Request timeout: " ++ decoding
  | .truncated => decoding

/-- The text of a fault. -/
def message : ExchangeFault → String
  | coolingDown left =>
    "cooling down for another " ++ (Numeral.ofNat (left / 1000000)).text ++ "ms"
  | unwritableKey => "Invalid API key format: failed to parse header value"
  | unusableAddress none => "builder error"
  | unusableAddress (some address) => "builder error for url (" ++ address ++ ")"
  | transport fault address => transportMessage fault address
  | unreadable _ e body =>
    "Failed to parse response: " ++ e.message ++ ". Body: " ++ excerpt body
  | rateLimited _ body | transient _ body | refused _ body => excerpt body
  | unauthorized _ body => "Authentication failed: " ++ excerpt body

/-- The status of the answer, or the status that stands for a cooldown. -/
def status? : ExchangeFault → Option UInt16
  | coolingDown _ => some 429
  | unreadable status _ _ | rateLimited status _ | transient status _ | unauthorized status _
  | refused status _ => some status
  | unwritableKey | unusableAddress _ | transport _ _ => none

/-- Whether another candidate may do better. -/
def isRetryable : ExchangeFault → Bool
  | coolingDown _ | rateLimited _ _ | transient _ _ => true
  | transport fault _ => fault ≠ .truncated
  | unwritableKey | unusableAddress _ | unreadable _ _ _ | unauthorized _ _ | refused _ _ => false

/-- The failure that is reported for a provider. -/
def error (f : ExchangeFault) (provider : String) : ProviderError :=
  ⟨provider, f.status?, f.isRetryable, f.message⟩

end ExchangeFault

/-- Whether a status means success. -/
def isSuccess (status : UInt16) : Bool :=
  200 ≤ status && status < 300

/-- Whether a status means that the provider may recover. -/
def isTransient (status : UInt16) : Bool :=
  (500 ≤ status && status < 600) || status = 408

/-- The failure of an answer that is no success. -/
def refusal (status : UInt16) (body : String) : ExchangeFault :=
  if isRateLimit status body then .rateLimited status body
  else if isTransient status then .transient status body
  else if status = 401 ∨ status = 403 then .unauthorized status body
  else .refused status body

/-! ## Exchanges -/

/-- What an exchange leads to. -/
structure Exchanged (α : Type) where
  result : Except ExchangeFault α
  cooldowns : Cooldowns
  /-- How often the request was sent. -/
  sendings : Nat
  /-- How often it arrived. -/
  arrivals : Nat

/-- The result of an answer, and the cooldowns after it. -/
def receive {α : Type} (dec : Decoder α) (c : Cooldowns) (provider : String) (r : HttpResponse) :
    Except ExchangeFault α × Cooldowns :=
  let body := Utf8.decodeLenient r.body
  if isSuccess r.status then
    match decodeText dec body with
    | .ok a => (.ok a, c)
    | .error e => (.error (.unreadable r.status e body), c)
  else
    let cooldowns :=
      if isRateLimit r.status body then (c.record r.receivedAt provider r.retryAfter).2 else c
    (.error (refusal r.status body), cooldowns)

/-- How many of some sendings arrived. -/
def arrivals (network : Nat → Delivery) (sendings : Nat) : Nat :=
  ((List.range sendings).filter fun i => network i ≠ .failed .unconnected).length

/-- Send a request to a provider and read the answer. -/
def exchange {α : Type} (dec : Decoder α) (repeats : Nat) (network : Nat → Delivery)
    (c : Cooldowns) (now : Nat) (provider : String) (request : HttpRequest) : Exchanged α :=
  match c.remaining? now provider with
  | some left => ⟨.error (.coolingDown left), c, 0, 0⟩
  | none =>
    match Address.ofText? request.address with
    | none => ⟨.error (.unusableAddress none), c, 0, 0⟩
    | some address =>
      if address.isUsable then
        match send network repeats 0 with
        | (n, .failed fault) => ⟨.error (.transport fault address.text), c, n, arrivals network n⟩
        | (n, .answered r) =>
          let (result, cooldowns) := receive dec c provider r
          ⟨result, cooldowns, n, arrivals network n⟩
      else ⟨.error (.unusableAddress (some address.text)), c, 0, 0⟩

section Exchange

variable {α : Type} (dec : Decoder α) (repeats : Nat) (network : Nat → Delivery) {c : Cooldowns}
  {now : Nat} {provider : String} {request : HttpRequest}

/-- Nothing is sent to a provider that is cooling down. -/
theorem exchange_of_cooling {left : Nat} (cooling : c.remaining? now provider = some left) :
    exchange dec repeats network c now provider request = ⟨.error (.coolingDown left), c, 0, 0⟩ := by
  simp [exchange, cooling]

/-- Nothing is sent to what is no address, or not one to send to. -/
theorem exchange_of_unusable (free : c.remaining? now provider = none)
    (unusable : ∀ address, Address.ofText? request.address = some address →
      address.isUsable = false) :
    exchange dec repeats network c now provider request =
      ⟨.error (.unusableAddress ((Address.ofText? request.address).map Address.text)), c, 0, 0⟩ := by
  cases h : Address.ofText? request.address with
  | none => simp [exchange, free, h]
  | some address => simp [exchange, free, h, unusable address h]

variable {address : Address}

/-- A request of which every sending fails ends with the fault of the last. -/
theorem exchange_of_failed (free : c.remaining? now provider = none)
    (parsed : Address.ofText? request.address = some address) (usable : address.isUsable = true)
    {n : Nat} {fault : TransportFault} (sent : send network repeats 0 = (n, .failed fault)) :
    exchange dec repeats network c now provider request =
      ⟨.error (.transport fault address.text), c, n, arrivals network n⟩ := by
  simp [exchange, free, parsed, usable, sent]

/-- A request that is answered ends with what the answer is received as. -/
theorem exchange_of_answered (free : c.remaining? now provider = none)
    (parsed : Address.ofText? request.address = some address) (usable : address.isUsable = true)
    {n : Nat} {r : HttpResponse} (sent : send network repeats 0 = (n, .answered r)) :
    exchange dec repeats network c now provider request =
      ⟨(receive dec c provider r).1, (receive dec c provider r).2, n, arrivals network n⟩ := by
  simp [exchange, free, parsed, usable, sent]

end Exchange

end ChatGateway

import ChatGateway.Http.Dialect

/-!
# Lines to the network

A line goes from one exchange to the next: it knows which providers are cooling
down, how much was sent, and what arrived.

## Main definitions

* `Line` — the state between exchanges.
* `Line.post`, `Line.call` — an exchange, and a chat call.
-/

namespace ChatGateway

/-- How often a request is repeated when nothing else is said. -/
def defaultRepeats : Nat := 2

/-- The state between exchanges. -/
structure Line where
  cooldowns : Cooldowns := {}
  /-- How many sendings there were. -/
  sendings : Nat := 0
  /-- The requests that arrived, in order. -/
  arrived : List HttpRequest := []

namespace Line

variable {α : Type}

/-- The line after an exchange of a request. -/
def after (line : Line) (request : HttpRequest) (x : Exchanged α) : Line where
  cooldowns := x.cooldowns
  sendings := line.sendings + x.sendings
  arrived := line.arrived ++ List.replicate x.arrivals request

/-- Exchange a request.  The network goes on where it stood. -/
def post (line : Line) (dec : Decoder α) (repeats : Nat) (network : Nat → Delivery) (now : Nat)
    (provider : String) (request : HttpRequest) : Except ExchangeFault α × Line :=
  let x := exchange dec repeats (fun i => network (line.sendings + i)) line.cooldowns now provider
    request
  (x.result, line.after request x)

/-- Make a chat call. -/
def call (line : Line) (e : Endpoint) (repeats : Nat) (network : Nat → Delivery) (now : Nat)
    (provider secret : String) (r : ChatRequest) : Except ExchangeFault ChatResponse × Line :=
  match e.request? secret r with
  | none => (.error .unwritableKey, line)
  | some request =>
    let (result, line) := line.post e.dialect.decode repeats network now provider request
    (result.map (Endpoint.named r), line)

end Line

end ChatGateway

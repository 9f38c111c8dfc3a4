import ChatGateway.Http.Line
import ChatGateway.Session.Call

/-!
# Serving calls over a network

A call that waits for a provider is answered by an exchange with the endpoint of
that provider, until it waits no more.

## Main definitions

* `Gateway.serve` — a call to its end.
-/

namespace ChatGateway

namespace Gateway

/-- Ask the provider that a call waits for.  One that is not registered has no
address. -/
def ask (g : Gateway Endpoint) (repeats : Nat) (network : Nat → Delivery) (now : Nat)
    (line : Line) (d : Dispatch) : Except ProviderError ChatResponse × Line :=
  match g.registry.get? d.provider with
  | none => (.error ((ExchangeFault.unusableAddress none).error d.provider), line)
  | some p =>
    let (result, line) := line.call p.adapter repeats network now p.name d.secret d.request
    (result.mapError fun fault => fault.error p.name, line)

/-- Take a call to its end. -/
def serve (g : Gateway Endpoint) (repeats : Nat) (network : Nat → Delivery) (now : Nat)
    (progress : Progress) (s : Session) (line : Line) :
    Except GatewayError ChatResponse × Session × Line :=
  match progress with
  | .done outcome => (outcome, s, line)
  | .waiting w =>
    let asked := g.ask repeats network now line w.dispatch
    let next := g.answer w asked.1 0 s
    g.serve repeats network now next.1 next.2 asked.2
termination_by progress.remaining
decreasing_by exact g.remaining_answer_lt _ _ _ _

end Gateway

end ChatGateway

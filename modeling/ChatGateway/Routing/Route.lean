import ChatGateway.Routing.Registry

/-!
# Routes

A candidate is routed to the provider that serves it.  A provider named before
the first slash comes first, then the provider that claims the whole candidate,
then the default.  A name before a slash counts only if it is registered and
something follows, so a model whose own name has slashes still finds its way.

## Main definitions

* `Route` — a provider and the model it is asked for.
* `Route.of?` — the route of a candidate.
-/

namespace ChatGateway

/-- A provider and the model it is asked for. -/
structure Route where
  provider : String
  model : String
  deriving DecidableEq, Repr

namespace Route

/-- The parts of a text before and after its first slash. -/
def splitSlash? (s : String) : Option (String × String) :=
  match s.toList.dropWhile (· ≠ '/') with
  | [] => none
  | _ :: rest => some (String.ofList (s.toList.takeWhile (· ≠ '/')), String.ofList rest)

variable {α : Type}

/-- The route that a candidate names itself. -/
def explicit? (registry : Registry α) (candidate : String) : Option Route :=
  match splitSlash? candidate with
  | none => none
  | some (provider, model) =>
    if registry.contains provider ∧ model ≠ "" then some ⟨provider, model⟩ else none

/-- The route to the provider that claims a candidate. -/
def claimed? (registry : Registry α) (candidate : String) : Option Route :=
  (registry.claimant? candidate).map fun provider => ⟨provider, candidate⟩

/-- The route to the default provider. -/
def default? (registry : Registry α) (defaultProvider : Option String) (candidate : String) :
    Option Route :=
  (defaultProvider.filter registry.contains).map fun provider => ⟨provider, candidate⟩

/-- The route of a candidate. -/
def of? (registry : Registry α) (defaultProvider : Option String) (candidate : String) :
    Option Route :=
  explicit? registry candidate
    <|> claimed? registry candidate
    <|> default? registry defaultProvider candidate

/-- The text of a route. -/
def text (r : Route) : String :=
  r.provider ++ "/" ++ r.model

end Route

end ChatGateway

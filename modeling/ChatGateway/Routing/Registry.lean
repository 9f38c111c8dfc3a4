import ChatGateway.Text.Quoted

/-!
# Provider registries

A registry lists providers in the order in which their names were first
registered.  Registering a name again puts a new provider in the old place.

## Main definitions

* `Provider` — a name, the models it claims, and how it is reached.
* `Registry` — the providers.
* `Registry.register`, `Registry.get?`, `Registry.claimant?` — the write and the
  two look-ups.
-/

namespace ChatGateway

/-- A provider that is reached by way of an `α`. -/
structure Provider (α : Type) where
  name : String
  /-- Whether a bare model name belongs to the provider. -/
  claims : String → Bool
  adapter : α

/-- The claim on every model whose name starts with one of some texts. -/
def claimsStarting (starts : List String) (model : String) : Bool :=
  starts.any fun start => start.toList.isPrefixOf model.toList

/-- Providers in order of registration. -/
structure Registry (α : Type) where
  providers : List (Provider α) := []

namespace Registry

variable {α : Type}

/-- Put a provider in the place of one with the same name, or at the end. -/
def place (p : Provider α) : List (Provider α) → List (Provider α)
  | [] => [p]
  | q :: rest => if q.name = p.name then p :: rest else q :: place p rest

/-- Register a provider. -/
def register (r : Registry α) (p : Provider α) : Registry α :=
  ⟨place p r.providers⟩

/-- The registry of some providers, registered one after another. -/
def ofList (ps : List (Provider α)) : Registry α :=
  ps.foldl register {}

/-- The provider of a name. -/
def get? (r : Registry α) (name : String) : Option (Provider α) :=
  r.providers.find? fun p => p.name = name

/-- Whether a name is registered. -/
def contains (r : Registry α) (name : String) : Bool :=
  r.providers.any fun p => p.name = name

/-- The first provider that claims a model. -/
def claimant? (r : Registry α) (model : String) : Option String :=
  (r.providers.find? fun p => p.claims model).map (·.name)

/-- The names, in order. -/
def names (r : Registry α) : List String :=
  r.providers.map (·.name)

/-- The number of providers. -/
def size (r : Registry α) : Nat :=
  r.providers.length

/-- The description of a registry. -/
def description (r : Registry α) : String :=
  Text.titled "ProviderRegistry" [("providers", Text.quotedList r.names)]

end Registry

end ChatGateway

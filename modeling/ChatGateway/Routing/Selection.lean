import ChatGateway.Config.Basic

/-!
# Selecting candidates

A call names a model.  The name may be an alias, which stands for another name in
one step; the name it stands for selects a rule by its first model, and the
models of the rule are the candidates.  Of several rules the one with the highest
priority counts, and of equals the one registered first.  Without a rule the
model itself is the only candidate.

## Main definitions

* `resolveAlias` — the model that a name stands for.
* `bestRule?` — the rule of a model.
* `selectCandidates` — the candidates of a model.
-/

namespace ChatGateway

/-- The model that a name stands for: one step, even where the target is an alias
too. -/
def resolveAlias (aliases : Dict String) (name : String) : String :=
  (aliases.get? name).getD name

/-- The one of two rules that counts; of equals the earlier. -/
def preferred (earlier : Option RoutingRule) (later : RoutingRule) : RoutingRule :=
  match earlier with
  | none => later
  | some r => if later.priority ≤ r.priority then r else later

/-- The rule of a model. -/
def bestRule? (rules : List RoutingRule) (model : String) : Option RoutingRule :=
  (rules.filter fun r => r.primary? = some model).foldl (fun best r => some (preferred best r)) none

/-- The candidates of a model, in the order in which they are tried. -/
def selectCandidates (rules : List RoutingRule) (model : String) : List String :=
  match bestRule? rules model with
  | some r => r.fallbackModels
  | none => [model]

end ChatGateway

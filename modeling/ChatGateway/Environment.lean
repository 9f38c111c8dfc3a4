import ChatGateway.Dict
import ChatGateway.Text.Upper

/-!
# Environment variables

Secrets, base addresses and the place of a configuration file may come from
variables.  A variable that belongs to a provider carries the provider's name.

## Main definitions

* `Environment.get?` — the value of a variable.
* `variableName` — the variable of a provider.
-/

namespace ChatGateway

/-- Variables and their values. -/
structure Environment where
  /-- The value of each variable that has one. -/
  bindings : Dict String := .empty
  deriving DecidableEq, Inhabited

/-- Whether a variable can have this name: an equals sign or a NUL would end it. -/
def isVariableName (name : String) : Bool :=
  !(name.toList.any fun c => c = '=' || c = '\x00')

namespace Environment

/-- The value of a variable. -/
def get? (env : Environment) (name : String) : Option String :=
  if isVariableName name then env.bindings.get? name else none

/-- Set a variable. -/
def set (env : Environment) (name value : String) : Environment :=
  ⟨env.bindings.insert name value⟩

/-- Set a variable that has no value yet. -/
def setNew (env : Environment) (name value : String) : Environment :=
  match env.get? name with
  | some _ => env
  | none => env.set name value

end Environment

/-- The variable of a provider: its name in capitals, with an underscore for each
hyphen, and a suffix. -/
def variableName (provider suffix : String) : String :=
  let name := (Text.upper provider).toList.map fun c => if c = '-' then '_' else c
  String.ofList name ++ "_" ++ suffix

end ChatGateway

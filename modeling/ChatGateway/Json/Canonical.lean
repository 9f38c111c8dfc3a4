import ChatGateway.Json.Decode

/-!
# JSON as data

A text that is read for no type in particular gives a value in canonical form:
members in ascending order of their names, of several with one name the last,
and every number written for its worth.  Such a text may nest up to a fixed
depth.

## Main definitions

* `Decoder.anything` — the decoder of any value.
* `Json.canonical?` — the canonical form of a text.
-/

namespace ChatGateway

namespace Draft

mutual

/-- The canonical value of a draft that nests no deeper than allowed. -/
def canonical? (depth : Nat) : Draft → Option Json
  | .null => some .null
  | .bool b => some (.bool b)
  | .number n => (n.value?.bind Number.numeral?).map .number
  | .text s => s.map .string
  | .array items closed =>
    if depth = 0 ∨ !closed then none else (canonicals? (depth - 1) items).map .array
  | .object members closed =>
    if depth = 0 ∨ !closed then none
    else (canonicalMembers? (depth - 1) members).map fun ms => .object (Dict.ofList ms).entries
  | .broken => none

/-- The canonical values of items. -/
def canonicals? (depth : Nat) : List Draft → Option (List Json)
  | [] => some []
  | d :: rest =>
    match canonical? depth d, canonicals? depth rest with
    | some j, some js => some (j :: js)
    | _, _ => none

/-- The names and canonical values of members. -/
def canonicalMembers? (depth : Nat) : List (Draft × Draft) → Option (List (String × Json))
  | [] => some []
  | (.text (some k), v) :: rest =>
    match canonical? depth v, canonicalMembers? depth rest with
    | some j, some ms => some ((k, j) :: ms)
    | _, _ => none
  | _ => none

end

end Draft

/-- How deep the containers of a value may nest. -/
def deepestNesting : Nat := 127

/-- Any value. -/
def Decoder.anything : Decoder Json := fun d =>
  match d.canonical? deepestNesting with
  | some j => .ok j
  | none => .error .malformed

/-- The canonical form of a text. -/
def Json.canonical? (s : String) : Option Json :=
  (decodeText Decoder.anything s).toOption

end ChatGateway

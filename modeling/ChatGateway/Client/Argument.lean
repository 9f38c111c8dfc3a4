import ChatGateway.Chat.Basic
import ChatGateway.Client.Value

/-!
# Arguments of a dynamic host

A value is taken for an argument of some type, or refused because it has another
type or lies out of range.  Truth values count as the integers zero and one, and
integers count as floats, but a float never counts as an integer.

## Main definitions

* `ArgumentFault` — why a value is refused.
* `Value.toStr`, `toWord64`, `toWord32`, `toInt64`, `toSingle` — scalars.
* `Value.toList`, `Value.toOptional` — shapes.
* `messageOf` — a message.
-/

namespace ChatGateway

/-- Why a value is refused as an argument. -/
inductive ArgumentFault where
  | wrongType
  | outOfRange
  /-- A message says neither who wrote it nor of what type it is. -/
  | missingRole
  deriving DecidableEq, Repr

/-- The text of a fault that has one of its own. -/
def ArgumentFault.message? : ArgumentFault → Option String
  | wrongType | outOfRange => none
  | missingRole => some "message needs a 'role' or 'type'"

namespace Value

variable {α : Type}

/-- A string. -/
def toStr : Value → Except ArgumentFault String
  | .str s => .ok s
  | _ => .error .wrongType

/-- An integer between two bounds. -/
def toInteger (low high : Int) (v : Value) : Except ArgumentFault Int :=
  let check (i : Int) := if low ≤ i ∧ i ≤ high then .ok i else .error .outOfRange
  match v with
  | .int i => check i
  | .bool b => check (if b then 1 else 0)
  | _ => .error .wrongType

/-- A 64-bit word. -/
def toWord64 (v : Value) : Except ArgumentFault UInt64 :=
  (v.toInteger 0 word64Max).map fun i => UInt64.ofNat i.toNat

/-- A 32-bit word. -/
def toWord32 (v : Value) : Except ArgumentFault UInt32 :=
  (v.toInteger 0 word32Max).map fun i => UInt32.ofNat i.toNat

/-- A signed 64-bit word. -/
def toInt64 (v : Value) : Except ArgumentFault Int64 :=
  (v.toInteger int64Min int64Max).map Int64.ofInt

/-- A single-precision number.  An integer past the range of doubles is out of
range, but a double past the range of single precision is infinite. -/
def toSingle : Value → Except ArgumentFault Binary
  | .float x => .ok (x.convert binary32)
  | .int i =>
    let x := Binary.ofInt binary64 i
    if x.isInfinite then .error .outOfRange else .ok (x.convert binary32)
  | .bool b => .ok (Binary.ofInt binary32 (if b then 1 else 0))
  | _ => .error .wrongType

/-- The items of a list, the first refusal in order. -/
def toList (item : Value → Except ArgumentFault α) : Value → Except ArgumentFault (List α)
  | .list items => items.mapM item
  | _ => .error .wrongType

/-- A value that may be absent. -/
def toOptional (item : Value → Except ArgumentFault α) : Value → Except ArgumentFault (Option α)
  | .null => .ok none
  | v => (item v).map some

end Value

/-- What a message says.  Nothing is no text; anything that is no string counts by
the text of its value. -/
def contentOf : Option Value → String
  | none => ""
  | some .null => ""
  | some v => v.text

/-- A message.  Its author is its role, or else its type. -/
def messageOf (v : Value) : Except ArgumentFault Message :=
  match v with
  | .dict _ =>
    match v.entry? "role" <|> v.entry? "type" with
    | none => .error .missingRole
    | some tag => tag.toStr.map fun tag => ⟨Role.ofTag tag, contentOf (v.entry? "content")⟩
  | _ => .error .wrongType

end ChatGateway

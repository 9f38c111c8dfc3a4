import ChatGateway.Json.Decode

/-!
# Records

A record is read from an object, where its fields are found by name, or from an
array, where they stand in order.  Reading fills slots, one for each field; a
slot that stays empty is given its default, or is the fault of the record.

Names that are no field are passed over together with their values, which need
only follow the grammar.  A field given twice is refused at its second name.  In
an array, an item past the last field is refused, and so is an end before a
field that has no default of its own.

## Main definitions

* `Field` — a name, a slot and a reader.
* `Record` — the fields of a type and how it is made from the slots.
* `Record.decode` — the decoder of a record.
-/

namespace ChatGateway

/-- A field of a record whose slots are kept in `σ`. -/
structure Field (σ : Type) where
  /-- The name in an object. -/
  name : String
  /-- Whether an array may end before the field. -/
  defaulted : Bool
  /-- Whether the slot is filled. -/
  filled : σ → Bool
  /-- Read a value into the slot. -/
  read : Draft → σ → Except ReadError σ

/-- A field with its slot given by a getter and a setter. -/
def Field.of {σ β : Type} (name : String) (defaulted : Bool) (get : σ → Option β)
    (set : σ → β → σ) (dec : Decoder β) : Field σ where
  name := name
  defaulted := defaulted
  filled s := (get s).isSome
  read d s := (dec d).map (set s)

/-- The value of a slot that must be filled. -/
def require {α : Type} (name : String) : Option α → Except ReadError α
  | some a => .ok a
  | none => .error (.missingField name)

/-- How a type is read from slots. -/
structure Record (σ α : Type) where
  /-- What a value of the type is called. -/
  title : String
  /-- The fields, in order. -/
  fields : List (Field σ)
  /-- No slot is filled. -/
  blank : σ
  /-- The value made from the slots, or the first field that is missing. -/
  finish : σ → Except ReadError α

namespace Record

variable {σ α : Type}

/-- Fill slots from members, in the order in which they are written. -/
def fromMembers (fields : List (Field σ)) (s : σ) : List (Draft × Draft) → Except ReadError σ
  | [] => .ok s
  | (.text (some k), v) :: rest =>
    match fields.find? fun f => f.name == k with
    | some f =>
      if f.filled s then .error (.duplicateField k)
      else
        match f.read v s with
        | .error e => .error e
        | .ok s => fromMembers fields s rest
    | none => if v.isWhole then fromMembers fields s rest else .error .malformed
  | _ => .error .malformed

/-- What an array that ends early should have been. -/
def arrayTitle (title : String) (count : Nat) : String :=
  title ++ " with " ++ (Numeral.ofNat count).text ++ (if count = 1 then " element" else " elements")

/-- Fill slots from items, in order. -/
def fromItems (wanted : String) (closed : Bool) :
    List (Field σ) → (position : Nat) → σ → List Draft → Except ReadError σ
  | [], _, s, [] => if closed then .ok s else .error .malformed
  | [], _, _, _ :: _ => .error .malformed
  | f :: fs, n, s, d :: ds =>
    match f.read d s with
    | .error e => .error e
    | .ok s => fromItems wanted closed fs (n + 1) s ds
  | f :: fs, n, s, [] =>
    if !closed then .error .malformed
    else if f.defaulted then fromItems wanted closed fs (n + 1) s []
    else .error (.invalidLength n wanted)

/-- The decoder of a record. -/
def decode (r : Record σ α) : Decoder α
  | .object ms closed =>
    match fromMembers r.fields r.blank ms with
    | .error e => .error e
    | .ok s => if closed then r.finish s else .error .malformed
  | .array ds closed =>
    match fromItems (arrayTitle r.title r.fields.length) closed r.fields 0 r.blank ds with
    | .error e => .error e
    | .ok s => r.finish s
  | d => .error (Decoder.mismatch r.title d)

end Record

end ChatGateway

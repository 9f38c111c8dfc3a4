import ChatGateway.Dict
import ChatGateway.Json.Draft
import ChatGateway.Json.ReadError

/-!
# Typed readers

A decoder reads a value of one type from a draft, or says why it cannot.  It
looks at the draft from left to right and stops at the first fault, whether the
fault is in the text or in a value.

## Main definitions

* `Decoder` — a reader of one type.
* `decodeText` — a value that is the whole of a text.
* `Decoder.string`, `word32`, `word64`, `int64`, `single` — scalars.
* `Decoder.optional`, `list`, `dict`, `variant` — shapes.
-/

namespace ChatGateway

/-- A reader of one type. -/
abbrev Decoder (α : Type) := Draft → Except ReadError α

/-- Read a text as one value.  The value is read first; what follows it is looked
at last. -/
def decodeText {α : Type} (dec : Decoder α) (s : String) : Except ReadError α :=
  let (d, alone) := Draft.ofText s
  match dec d with
  | .error e => .error e
  | .ok a => if alone then .ok a else .error .malformed

namespace Decoder

variable {α : Type}

/-- The refusal of a draft where something else was wanted.  A container is
refused at its opening bracket, a string or number only once it is read. -/
def mismatch (wanted : String) : Draft → ReadError
  | .null => .invalidType .null wanted
  | .bool b => .invalidType (.bool b) wanted
  | .number n =>
    match n.value? with
    | some v => .invalidType (.number v) wanted
    | none => .malformed
  | .text (some s) => .invalidType (.string s) wanted
  | .text none => .malformed
  | .array _ _ => .invalidType .sequence wanted
  | .object _ _ => .invalidType .map wanted
  | .broken => .malformed

/-! ## Scalars -/

/-- A string. -/
def string : Decoder String
  | .text (some s) => .ok s
  | d => .error (mismatch "a string" d)

/-- An integer between two bounds. -/
def integer (wanted : String) (low high : Int) : Decoder Int
  | .number n =>
    match n.value? with
    | some (.integer i) =>
      if low ≤ i ∧ i ≤ high then .ok i
      else .error (.invalidValue (.number (.integer i)) wanted)
    | some (.real x) => .error (.invalidType (.number (.real x)) wanted)
    | none => .error .malformed
  | d => .error (mismatch wanted d)

/-- A 32-bit word. -/
def word32 : Decoder UInt32 := fun d =>
  (integer "u32" 0 word32Max d).map fun i => UInt32.ofNat i.toNat

/-- A 64-bit word. -/
def word64 : Decoder UInt64 := fun d =>
  (integer "u64" 0 word64Max d).map fun i => UInt64.ofNat i.toNat

/-- A signed 64-bit word. -/
def int64 : Decoder Int64 := fun d =>
  (integer "i64" int64Min int64Max d).map Int64.ofInt

/-- A single-precision number: an integer is rounded once, any other number is
a double first. -/
def single : Decoder Binary
  | .number n =>
    match n.value? with
    | some (.integer i) => .ok (Binary.ofInt binary32 i)
    | some (.real x) => .ok (x.convert binary32)
    | none => .error .malformed
  | d => .error (mismatch "f32" d)

/-! ## Shapes -/

/-- A value, or null for none. -/
def optional (dec : Decoder α) : Decoder (Option α)
  | .null => .ok none
  | d => (dec d).map some

/-- Items in order. -/
def items (dec : Decoder α) : List Draft → Except ReadError (List α)
  | [] => .ok []
  | d :: rest =>
    match dec d with
    | .error e => .error e
    | .ok a => (items dec rest).map (a :: ·)

/-- An array. -/
def list (dec : Decoder α) : Decoder (List α)
  | .array ds closed =>
    match items dec ds with
    | .error e => .error e
    | .ok as => if closed then .ok as else .error .malformed
  | d => .error (mismatch "a sequence" d)

/-- Members in order, written into a dictionary one after another. -/
def entries (dec : Decoder α) (acc : Dict α) : List (Draft × Draft) → Except ReadError (Dict α)
  | [] => .ok acc
  | (.text (some k), v) :: rest =>
    match dec v with
    | .error e => .error e
    | .ok a => entries dec (acc.insert k a) rest
  | _ => .error .malformed

/-- An object whose names are data.  A name that is given twice keeps its last
value. -/
def dict (dec : Decoder α) : Decoder (Dict α)
  | .object ms closed =>
    match entries dec .empty ms with
    | .error e => .error e
    | .ok d => if closed then .ok d else .error .malformed
  | d => .error (mismatch "a map" d)

/-- One of some names. -/
def choice (variants : List (String × α)) (name : String) : Except ReadError α :=
  match variants.lookup name with
  | some a => .ok a
  | none => .error (.unknownVariant name (variants.map (·.1)))

/-- One of some names, as a string or as the only name of an object whose value
is null. -/
def variant (variants : List (String × α)) : Decoder α
  | .text (some s) => choice variants s
  | .object ((.text (some s), v) :: rest) closed =>
    match choice variants s with
    | .error e => .error e
    | .ok a =>
      match v with
      | .null => if closed && rest.isEmpty then .ok a else .error .malformed
      | v => .error (mismatch "unit" v)
  | _ => .error .malformed

end Decoder

end ChatGateway

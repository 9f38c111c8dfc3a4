import ChatGateway.Json.Number
import ChatGateway.Text.Quoted

/-!
# Why a JSON text is refused

A refusal names its cause.  Every departure from the grammar is one cause, told
by one word; the other causes say what a value of the wanted type would need.

No place is kept.  Where the text of a whole refusal goes on with the line and the
column at which it was found, the one here ends; and the word for a departure from
the grammar stands for all the texts that tell such departures apart.

## Main definitions

* `Found` — what stood where something else was wanted.
* `ReadError` — the causes.
* `ReadError.message` — their texts.
-/

namespace ChatGateway

/-- What stood in a place where something else was wanted. -/
inductive Found where
  | null
  | bool (b : Bool)
  | number (n : Number)
  | string (s : String)
  | sequence
  | map
  deriving DecidableEq, Repr

/-- Why a text was refused. -/
inductive ReadError where
  /-- The text leaves the grammar, or a number leaves the range of doubles, in
  whatever way. -/
  | malformed
  /-- A value of another kind. -/
  | invalidType (found : Found) (wanted : String)
  /-- A value of the right kind, but out of range. -/
  | invalidValue (found : Found) (wanted : String)
  /-- A field without a default is missing. -/
  | missingField (name : String)
  /-- A field is given twice. -/
  | duplicateField (name : String)
  /-- A name that is none of those allowed. -/
  | unknownVariant (name : String) (known : List String)
  /-- An array ends before a field without a default. -/
  | invalidLength (length : Nat) (wanted : String)
  deriving DecidableEq, Repr

/-- The description of what was found. -/
def Found.text : Found → String
  | .null => "null"
  | .bool b => "boolean `" ++ (if b then "true" else "false") ++ "`"
  | .number (.integer i) => "integer `" ++ (Numeral.ofInt i).text ++ "`"
  | .number (.real x) =>
    "floating point `" ++ ((x.numeral? binary64 doubleLayout).map Numeral.text).getD "inf" ++ "`"
  | .string s => "string " ++ Text.quoted s
  | .sequence => "sequence"
  | .map => "map"

/-- Names in backquotes, the last after "or". -/
def alternatives : List String → String
  | [] => ""
  | [a] => "`" ++ a ++ "`"
  | [a, b] => "`" ++ a ++ "` or `" ++ b ++ "`"
  | a :: rest => "`" ++ a ++ "`, " ++ alternatives rest

namespace ReadError

/-- The text of a refusal, without the line and the column.  A departure from the
grammar has one text here, whatever it is. -/
def message : ReadError → String
  | malformed => "syntax"
  | invalidType found wanted => "invalid type: " ++ found.text ++ ", expected " ++ wanted
  | invalidValue found wanted => "invalid value: " ++ found.text ++ ", expected " ++ wanted
  | missingField name => "missing field `" ++ name ++ "`"
  | duplicateField name => "duplicate field `" ++ name ++ "`"
  | unknownVariant name known => "unknown variant `" ++ name ++ "`, expected " ++ alternatives known
  | invalidLength length wanted =>
    "invalid length " ++ (Numeral.ofNat length).text ++ ", expected " ++ wanted

end ReadError

end ChatGateway

import ChatGateway.Json.Number
import ChatGateway.Json.Value
import ChatGateway.Text.Unprintable

/-!
# Values of a dynamic host

A host program without static types hands over values that may be anything.  The
text of a value is how the host itself would write it: a string stands for
itself, and inside a container everything is written as a literal.  In a literal,
characters are written by number that are unprintable, and also those that are
newer than the host's own tables.

## Main definitions

* `Value` — a value of the host.
* `Value.ofJson` — the value that a JSON text stands for.
* `Value.hasGlyph` — whether the host shows a character as it is.
* `Value.text` — how the host writes a value.
-/

namespace ChatGateway

/-- A value of the host. -/
inductive Value where
  /-- The value that stands for no value. -/
  | null
  | bool (b : Bool)
  | int (i : Int)
  | float (x : Binary)
  | str (s : String)
  | list (items : List Value)
  /-- Entries in the order in which their keys were first set. -/
  | dict (entries : List (String × Value))
  deriving Inhabited

/-! ## Numbers -/

/-- The double nearest to a numeral. -/
def Numeral.nearest (n : Numeral) : Binary :=
  let significand := digitsValue (n.whole ++ n.fraction)
  let power : Int := match n.exponent with
    | none => 0
    | some (below, ds) => if below then -(digitsValue ds : Int) else digitsValue ds
  let places := power - n.fraction.length
  let digits : Int := (decimalDigits significand).length
  if significand = 0 then .finite n.negative 0 binary64.minExponent
  else if 400 < digits + places then .infinite n.negative
  else if digits + places < -400 then .finite n.negative 0 binary64.minExponent
  else if 0 ≤ places then .ofRatio binary64 n.negative (significand * Nat.pow 10 places.toNat) 1
  else .ofRatio binary64 n.negative significand (Nat.pow 10 (-places).toNat)

/-- An integer, if a numeral is written as one. -/
def Numeral.int? (n : Numeral) : Option Int :=
  if n.fraction = [] ∧ n.exponent = none then
    some (if n.negative then -(digitsValue n.whole : Int) else digitsValue n.whole)
  else none

namespace Value

/-- Set an entry: in its place if the key is there, or else at the end. -/
def setEntry (k : String) (v : Value) : List (String × Value) → List (String × Value)
  | [] => [(k, v)]
  | (k', v') :: rest => if k' = k then (k, v) :: rest else (k', v') :: setEntry k v rest

mutual

/-- The value that a JSON text stands for. -/
def ofJson : Json → Value
  | .null => .null
  | .bool b => .bool b
  | .number n =>
    match n.int? with
    | some i => .int i
    | none => .float n.nearest
  | .string s => .str s
  | .array items => .list (ofItems items)
  | .object members => .dict (ofMembers members [])

/-- The values of items. -/
def ofItems : List Json → List Value
  | [] => []
  | j :: rest => ofJson j :: ofItems rest

/-- Set an entry for every member, in order. -/
def ofMembers : List (String × Json) → List (String × Value) → List (String × Value)
  | [], entries => entries
  | (k, j) :: rest, entries => ofMembers rest (setEntry k (ofJson j) entries)

end

/-- The value of an entry, if a value is a dictionary with that key. -/
def entry? (v : Value) (k : String) : Option Value :=
  match v with
  | .dict entries => entries.lookup k
  | _ => none

/-! ## Characters -/

/-- Ranges of the characters that are newer than the tables of the host. -/
def newerRanges : List (Nat × Nat) := [
  (0x88F, 0x897), (0xC5C, 0xC5C), (0xCDC, 0xCDC), (0x1ACF, 0x1AEB), (0x1B4E, 0x1B4F),
  (0x1B7F, 0x1B7F), (0x1C89, 0x1C8A), (0x20C1, 0x20C1), (0x2427, 0x2429), (0x2B96, 0x2B96),
  (0x31E4, 0x31E5), (0xA7CB, 0xA7CF), (0xA7D2, 0xA7D2), (0xA7D4, 0xA7D4), (0xA7DA, 0xA7F1),
  (0xFBC3, 0xFBD2), (0xFD90, 0xFD91), (0xFDC8, 0xFDCE), (0x105C0, 0x105F3), (0x10940, 0x10959),
  (0x10D40, 0x10D8F), (0x10EC2, 0x10EFC), (0x11380, 0x113E2), (0x116D0, 0x116E3),
  (0x11B60, 0x11BF9), (0x11DB0, 0x11DE9), (0x11F5A, 0x11F5A), (0x13460, 0x143FA),
  (0x16100, 0x16139), (0x16D40, 0x16D79), (0x16EA0, 0x16ED3), (0x16FF2, 0x16FF6),
  (0x187F8, 0x187FF), (0x18CFF, 0x18CFF), (0x18D09, 0x18DF2), (0x1CC00, 0x1CEF0),
  (0x1E5D0, 0x1E6FF), (0x1F6D8, 0x1F6D8), (0x1F777, 0x1F77A), (0x1F8B2, 0x1F8D8),
  (0x1FA54, 0x1FA57), (0x1FA89, 0x1FA8F), (0x1FABE, 0x1FABE), (0x1FAC6, 0x1FACD),
  (0x1FADC, 0x1FADF), (0x1FAE9, 0x1FAEF), (0x1FBCB, 0x1FBEF), (0x1FBFA, 0x1FBFA),
  (0x2B73A, 0x2B73F), (0x2CEA2, 0x2CEAD), (0x323B0, 0x33479)]

/-- Whether the host shows a character as it is. -/
def hasGlyph (c : Char) : Bool :=
  !(Text.isUnprintable c || Text.inRanges newerRanges c.toNat)

/-! ## Texts -/

/-- The host writes floats out from `0.0001` to sixteen digits before the point,
and exponents in two digits. -/
def floatLayout : Layout := ⟨-4, 15, 2⟩

/-- The text of a float. -/
def floatText (x : Binary) : String :=
  match x.numeral? binary64 floatLayout with
  | some n => n.text
  | none => match x with
    | .infinite true => "-inf"
    | _ => "inf"

/-- A number in at least so many hexadecimal digits. -/
def hexChars (width n : Nat) : List Char :=
  let ds := Nat.toDigits 16 n
  List.replicate (width - ds.length) '0' ++ ds

/-- A character of a string literal in quotes of a kind. -/
def literalChar (quote c : Char) : List Char :=
  if c = quote ∨ c = '\\' then ['\\', c]
  else if c = '\t' then ['\\', 't']
  else if c = '\r' then ['\\', 'r']
  else if c = '\n' then ['\\', 'n']
  else if c.toNat < 0x20 ∨ c.toNat = 0x7F then '\\' :: 'x' :: hexChars 2 c.toNat
  else if c.toNat < 0x7F ∨ hasGlyph c then [c]
  else if c.toNat < 0x100 then '\\' :: 'x' :: hexChars 2 c.toNat
  else if c.toNat < 0x10000 then '\\' :: 'u' :: hexChars 4 c.toNat
  else '\\' :: 'U' :: hexChars 8 c.toNat

/-- A string literal.  Single quotes are used unless the string has some and no
double ones. -/
def literalString (s : String) : String :=
  let cs := s.toList
  let quote := if cs.contains '\'' && !cs.contains '"' then '"' else '\''
  String.ofList (quote :: (cs.flatMap (literalChar quote) ++ [quote]))

mutual

/-- A value as a literal. -/
def literal : Value → String
  | .null => "None"
  | .bool b => if b then "True" else "False"
  | .int i => (Numeral.ofInt i).text
  | .float x => floatText x
  | .str s => literalString s
  | .list items => "[" ++ ", ".intercalate (literals items) ++ "]"
  | .dict entries => "\x7b" ++ ", ".intercalate (entryLiterals entries) ++ "\x7d"

/-- Values as literals. -/
def literals : List Value → List String
  | [] => []
  | v :: rest => literal v :: literals rest

/-- Entries as literals. -/
def entryLiterals : List (String × Value) → List String
  | [] => []
  | (k, v) :: rest => (literalString k ++ ": " ++ literal v) :: entryLiterals rest

end

/-- The text of a value: a string stands for itself. -/
def text : Value → String
  | .str s => s
  | v => v.literal

end Value

end ChatGateway

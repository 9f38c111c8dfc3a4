import ChatGateway.Text.Mark
import ChatGateway.Text.Unprintable

/-!
# Quoted text

The form in which texts appear inside descriptions of values: in double quotes,
with a backslash before quotes and backslashes, letters for the common
controls, and numbers in braces for everything that would not be seen.

## Main definitions

* `quoted` — a text in quotes.
* `quotedList` — quoted texts in brackets.
-/

namespace ChatGateway.Text

/-- A character by its number. -/
def byNumber (c : Char) : List Char :=
  ['\\', 'u', '{'] ++ Nat.toDigits 16 c.toNat ++ ['}']

/-- One character inside double quotes. -/
def quotedChar (c : Char) : List Char :=
  if c = '\x00' then ['\\', '0']
  else if c = '\t' then ['\\', 't']
  else if c = '\r' then ['\\', 'r']
  else if c = '\n' then ['\\', 'n']
  else if c = '\\' ∨ c = '"' then ['\\', c]
  else if c.toNat < 0x7F ∧ 0x20 ≤ c.toNat then [c]
  else if isExtending c || isUnprintable c || isFiller c then byNumber c
  else [c]

/-- A text in double quotes. -/
def quoted (s : String) : String :=
  String.ofList ('"' :: (s.toList.flatMap quotedChar ++ ['"']))

/-- Items in brackets, separated by commas. -/
def bracketed (items : List String) : String :=
  "[" ++ ", ".intercalate items ++ "]"

/-- Quoted texts in brackets. -/
def quotedList (l : List String) : String :=
  bracketed (l.map quoted)

/-- Named fields in braces after a title. -/
def titled (title : String) (fields : List (String × String)) : String :=
  title ++ " \x7b " ++ ", ".intercalate (fields.map fun f => f.1 ++ ": " ++ f.2) ++ " \x7d"

/-- Named fields in braces after a title, with a mark that more is left out. -/
def titledOpen (title : String) (fields : List (String × String)) : String :=
  title ++ " \x7b " ++ String.join (fields.map fun f => f.1 ++ ": " ++ f.2 ++ ", ") ++ ".. \x7d"

/-- Quoted keys and their values in braces. -/
def braced (entries : List (String × String)) : String :=
  "\x7b" ++ ", ".intercalate (entries.map fun e => quoted e.1 ++ ": " ++ e.2) ++ "\x7d"

/-- An optional value. -/
def optional (value : Option String) : String :=
  match value with
  | none => "None"
  | some v => "Some(" ++ v ++ ")"

end ChatGateway.Text

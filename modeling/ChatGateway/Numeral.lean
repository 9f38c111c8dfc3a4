/-!
# Numerals

A numeral is a number as it is written: digits, not a value.  Text is read into
numerals and written from them, and only the reader of a typed field asks what
a numeral is worth.

## Main definitions

* `Numeral` — sign, whole digits, digits after the point, exponent.
* `Numeral.ofNat`, `Numeral.ofInt` — the numeral of an integer.
* `Numeral.chars` — its characters.
* `digitsValue`, `hexValue?` — what a row of digits is worth, and what a hexadecimal
  digit is.
-/

namespace ChatGateway

/-- A number as it is written in decimal.  An empty fraction means that no point
is written. -/
structure Numeral where
  /-- A minus sign stands in front. -/
  negative : Bool
  /-- The digits before the point. -/
  whole : List Char
  /-- The digits after the point. -/
  fraction : List Char
  /-- The power of ten that follows: whether it is negative, and its digits. -/
  exponent : Option (Bool × List Char)
  deriving DecidableEq, Repr

/-- The decimal digits of a natural number. -/
def decimalDigits (n : Nat) : List Char :=
  Nat.toDigits 10 n

/-- What one digit is worth. -/
def digitValue (c : Char) : Nat :=
  c.toNat - '0'.toNat

/-- What a row of decimal digits is worth. -/
def digitsValue (ds : List Char) : Nat :=
  ds.foldl (fun acc c => acc * 10 + digitValue c) 0

/-- The worth of a hexadecimal digit of either case. -/
def hexValue? (c : Char) : Option Nat :=
  if '0' ≤ c ∧ c ≤ '9' then some (c.toNat - '0'.toNat)
  else if 'a' ≤ c ∧ c ≤ 'f' then some (c.toNat - 'a'.toNat + 10)
  else if 'A' ≤ c ∧ c ≤ 'F' then some (c.toNat - 'A'.toNat + 10)
  else none

namespace Numeral

/-- The numeral of a natural number. -/
def ofNat (n : Nat) : Numeral :=
  ⟨false, decimalDigits n, [], none⟩

/-- The numeral of an integer. -/
def ofInt (i : Int) : Numeral :=
  ⟨i < 0, decimalDigits i.natAbs, [], none⟩

/-- The characters of a numeral.  The sign of an exponent is always written. -/
def chars (n : Numeral) : List Char :=
  (if n.negative then ['-'] else [])
    ++ n.whole
    ++ (if n.fraction = [] then [] else '.' :: n.fraction)
    ++ (match n.exponent with
      | none => []
      | some (below, ds) => 'e' :: (if below then '-' else '+') :: ds)

/-- The text of a numeral. -/
def text (n : Numeral) : String :=
  String.ofList n.chars

end Numeral

end ChatGateway

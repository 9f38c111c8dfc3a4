import ChatGateway.Numeral
import ChatGateway.Text.Utf8

/-!
# Bytes after percent signs

A character that a part of an address may not hold is written as the bytes of its
UTF-8 form, each as a percent sign and two hexadecimal digits.

## Main definitions

* `percentEncoded`, `percentDecoded` — writing and reading.
* `notInPath`, `notInQuery`, `notInFragment`, `notInCredentials` — what the parts of
  an address may not hold.
-/

namespace ChatGateway

/-! ## Writing and reading -/

/-- A byte as a percent sign and two capital digits. -/
def percentByte (b : UInt8) : List Char :=
  ['%', (Nat.digitChar (b.toNat / 16)).toUpper, (Nat.digitChar (b.toNat % 16)).toUpper]

/-- Characters, with the bytes of the unwelcome ones in their place. -/
def percentEncoded (unwelcome : Char → Bool) (cs : List Char) : List Char :=
  cs.flatMap fun c =>
    if unwelcome c then (Utf8.encode (String.singleton c)).flatMap percentByte else [c]

/-- The bytes of a text in which a percent sign and two hexadecimal digits stand for
a byte. -/
def percentDecoded : List Char → List UInt8
  | [] => []
  | '%' :: a :: b :: rest =>
    match hexValue? a, hexValue? b with
    | some high, some low => UInt8.ofNat (high * 16 + low) :: percentDecoded rest
    | _, _ => UInt8.ofNat '%'.toNat :: percentDecoded (a :: b :: rest)
  | c :: rest => Utf8.encode (String.singleton c) ++ percentDecoded rest

/-! ## Characters -/

/-- Controls, and everything outside ASCII. -/
def isUnwritable (c : Char) : Bool :=
  c.toNat < 0x20 || 0x7F ≤ c.toNat

/-- What a fragment may not hold. -/
def notInFragment (c : Char) : Bool :=
  isUnwritable c || [' ', '"', '<', '>', '`'].contains c

/-- What a path may not hold. -/
def notInPath (c : Char) : Bool :=
  notInFragment c || ['#', '?', '\x7b', '\x7d'].contains c

/-- What a name or a password may not hold. -/
def notInCredentials (c : Char) : Bool :=
  notInPath c || ['/', ':', ';', '=', '@', '[', '\\', ']', '^', '|'].contains c

/-- What a query may not hold.  Quotes are written out on the web only. -/
def notInQuery (onWeb : Bool) (c : Char) : Bool :=
  isUnwritable c || [' ', '"', '#', '<', '>'].contains c || (onWeb && c = '\'')

end ChatGateway

/-!
# Decoding UTF-8

Bytes are read into pieces: the characters, and a mark for every malformed
stretch.  A malformed stretch is the longest beginning of a well-formed
sequence that the bytes go on to break, or one byte that can begin none.  The
strict reading is the pieces when all are characters; the lenient one puts the
replacement character where a mark stands.

## Main definitions

* `Utf8.pieces` — characters and marks.
* `Utf8.decode?` — the strict reading.
* `Utf8.decodeLenient` — the lenient reading.
-/

namespace ChatGateway.Utf8

/-- A sequence that has begun: the bits so far, how many bytes are owed, and the
range the next byte must lie in. -/
structure Partial where
  bits : Nat
  owed : Nat
  low : Nat
  high : Nat
  deriving Repr

/-- What a byte means between characters. -/
inductive Lead where
  | ascii (c : Char)
  | start (p : Partial)
  | invalid

/-- Read a byte between characters.  The range of the second byte shuts out long
forms, surrogates and code points past the last one. -/
def lead (b : Nat) : Lead :=
  if b < 0x80 then .ascii (Char.ofNat b)
  else if b < 0xC2 then .invalid
  else if b < 0xE0 then .start ⟨b - 0xC0, 1, 0x80, 0xBF⟩
  else if b = 0xE0 then .start ⟨0, 2, 0xA0, 0xBF⟩
  else if b = 0xED then .start ⟨0xD, 2, 0x80, 0x9F⟩
  else if b < 0xF0 then .start ⟨b - 0xE0, 2, 0x80, 0xBF⟩
  else if b = 0xF0 then .start ⟨0, 3, 0x90, 0xBF⟩
  else if b < 0xF4 then .start ⟨b - 0xF0, 3, 0x80, 0xBF⟩
  else if b = 0xF4 then .start ⟨4, 3, 0x80, 0x8F⟩
  else .invalid

/-- The characters of a row of bytes, with `none` for each malformed stretch. -/
def pieces : Option Partial → List UInt8 → List (Option Char)
  | none, [] => []
  | some _, [] => [none]
  | none, b :: rest =>
    match lead b.toNat with
    | .ascii c => some c :: pieces none rest
    | .start p => pieces (some p) rest
    | .invalid => none :: pieces none rest
  | some p, b :: rest =>
    if p.low ≤ b.toNat ∧ b.toNat ≤ p.high then
      let bits := p.bits * 64 + (b.toNat - 0x80)
      if p.owed ≤ 1 then some (Char.ofNat bits) :: pieces none rest
      else pieces (some ⟨bits, p.owed - 1, 0x80, 0xBF⟩) rest
    else
      match lead b.toNat with
      | .ascii c => none :: some c :: pieces none rest
      | .start q => none :: pieces (some q) rest
      | .invalid => none :: none :: pieces none rest

/-- The text of well-formed bytes. -/
def decode? (bytes : List UInt8) : Option String :=
  ((pieces none bytes).mapM id).map String.ofList

/-- The text of any bytes, with a replacement character for each malformed
stretch. -/
def decodeLenient (bytes : List UInt8) : String :=
  String.ofList ((pieces none bytes).map fun p => p.getD (Char.ofNat 0xFFFD))

/-- The bytes of a text. -/
def encode (s : String) : List UInt8 :=
  s.toUTF8.toList

end ChatGateway.Utf8

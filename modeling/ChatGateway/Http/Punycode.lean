/-!
# Names spelled in ASCII

A label with characters of any script is spelled in letters, digits and hyphens.
Its ASCII characters come first.  Then, after a hyphen, comes one number for each
of the others in ascending order: how many places are passed before it is put in,
where a place is a position in the label for one code point.  The digits of a
number have values below 36, and how far a digit counts adapts to the numbers
before it.

## Main definitions

* `Punycode.encode` — the spelling of a label.
* `Punycode.decode?` — the label of a spelling.
-/

namespace ChatGateway.Punycode

/-! ## Digits -/

/-- The digit of a value: letters, then digits. -/
def digitChar (d : Nat) : Char :=
  if d < 26 then Char.ofNat ('a'.toNat + d) else Char.ofNat ('0'.toNat + (d - 26))

/-- The value of a digit of either case. -/
def digit? (c : Char) : Option Nat :=
  if c.isDigit then some (c.toNat - '0'.toNat + 26)
  else if c.isAlpha then some (c.toLower.toNat - 'a'.toNat)
  else none

/-- The value below which a digit is the last of its number.  It depends on the
bias and on the place of the digit, which is counted in steps of 36. -/
def threshold (bias place : Nat) : Nat :=
  max 1 (min 26 (place - bias))

theorem one_le_threshold (bias place : Nat) : 1 ≤ threshold bias place :=
  Nat.le_max_left 1 _

theorem threshold_le (bias place : Nat) : threshold bias place ≤ 26 :=
  Nat.max_le.2 ⟨by decide, Nat.min_le_left _ _⟩

/-- The bias for numbers of a size. -/
def biasFor (size place : Nat) : Nat :=
  if 455 < size then biasFor (size / 35) (place + 36) else place + 36 * size / (size + 38)
termination_by size
decreasing_by exact Nat.div_lt_self (by omega) (by decide)

/-- The bias after a number, given how many characters stand then.  The first number
tends to be large, and counts for less. -/
def adapted (number standing : Nat) (isFirst : Bool) : Nat :=
  let size := number / (if isFirst then 700 else 2)
  biasFor (size + size / standing) 0

/-- The places of digits begin here. -/
def firstPlace : Nat := 36

/-- The bias before the first number. -/
def firstBias : Nat := 72

/-! ## Writing -/

/-- The digits of a number, the first from a given place on. -/
def numberDigits (bias place n : Nat) : List Char :=
  let t := threshold bias place
  if n < t then [digitChar n]
  else digitChar (t + (n - t) % (36 - t)) :: numberDigits bias (place + 36) ((n - t) / (36 - t))
termination_by n
decreasing_by
  have := one_le_threshold bias place
  exact Nat.lt_of_le_of_lt (Nat.div_le_self _ _) (by omega)

/-- A spelling that is being written. -/
structure Writer where
  /-- The digits so far. -/
  digits : List Char := []
  /-- The places passed since the last number. -/
  passed : Nat := 0
  bias : Nat := firstBias
  /-- The characters that stand already. -/
  standing : Nat
  isFirst : Bool := true
  /-- The least code point that is still to come. -/
  next : Nat := 0x80

/-- Pass a character of the label while a code point is put in. -/
def Writer.pass (point : Nat) (w : Writer) (c : Char) : Writer :=
  if c.toNat < point then { w with passed := w.passed + 1 }
  else if c.toNat = point then
    { w with
      digits := w.digits ++ numberDigits w.bias firstPlace w.passed
      passed := 0
      bias := adapted w.passed (w.standing + 1) w.isFirst
      standing := w.standing + 1
      isFirst := false }
  else w

/-- Put in a code point wherever the label has it. -/
def Writer.put (label : List Char) (w : Writer) (point : Nat) : Writer :=
  let w := { w with passed := w.passed + (point - w.next) * (w.standing + 1) }
  let w := label.foldl (Writer.pass point) w
  { w with passed := w.passed + 1, next := point + 1 }

/-- The code points of a label outside ASCII, in ascending order. -/
def pointsOf (label : List Char) : List Nat :=
  ((label.map Char.toNat).filter (0x80 ≤ ·)).mergeSort.eraseReps

/-- The spelling of a label. -/
def encode (label : List Char) : List Char :=
  let plain := label.filter (·.toNat < 0x80)
  let start : Writer := { standing := plain.length }
  plain ++ (if plain.isEmpty then [] else ['-'])
    ++ ((pointsOf label).foldl (Writer.put label) start).digits

/-! ## Reading -/

/-- A spelling that is being read. -/
structure Reader where
  /-- The characters that stand already. -/
  label : List Char
  /-- The code point that was put in last. -/
  point : Nat := 0x80
  bias : Nat := firstBias
  /-- The position at which the number began to count. -/
  start : Nat := 0
  /-- The position and the places that the digits so far add to it. -/
  reached : Nat := 0
  /-- What the next digit counts. -/
  weight : Nat := 1
  place : Nat := firstPlace

/-- Put in the character that a whole number stands for. -/
def Reader.put? (r : Reader) (reached : Nat) : Option Reader :=
  let standing := r.label.length + 1
  let point := r.point + reached / standing
  let position := reached % standing
  if point.isValidChar then
    some {
      label := r.label.insertIdx position (Char.ofNat point)
      point := point
      bias := adapted (reached - r.start) standing (r.start == 0)
      start := position + 1
      reached := position + 1 }
  else none

/-- Read digits.  The last number has to be whole. -/
def Reader.read? (r : Reader) : List Char → Option (List Char)
  | [] => if r.place = firstPlace then some r.label else none
  | c :: rest =>
    match digit? c with
    | none => none
    | some d =>
      let reached := r.reached + d * r.weight
      let t := threshold r.bias r.place
      if d < t then
        match r.put? reached with
        | some r => r.read? rest
        | none => none
      else
        Reader.read?
          { r with reached := reached, weight := r.weight * (36 - t), place := r.place + 36 } rest

/-- The label of a spelling.  Its plain characters stand before the last hyphen, in
small letters; a hyphen in front of everything is no such mark. -/
def decode? (cs : List Char) : Option (List Char) :=
  let digits := (cs.reverse.takeWhile (· ≠ '-')).reverse
  let plain := cs.take (cs.length - digits.length - 1)
  if plain.isEmpty then Reader.read? { label := [] } cs
  else Reader.read? { label := plain.map Char.toLower } digits

end ChatGateway.Punycode

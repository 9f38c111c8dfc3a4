import ChatGateway.Binary.Basic
import ChatGateway.Numeral

/-!
# The shortest decimal of a binary number

A binary number is written with the fewest decimal digits that lie closer to it
than to any other number of its format.  The search tries one digit, two
digits, and so on; on each decimal grid only the two neighbours of the number
need a test, because if any point of the grid lies in the interval of reals
that round to the number, so does one of the two.

How the digits are laid out, with or without an exponent, is a choice of the
format written, so it is a record (`Layout`) and not part of the search.

## Main definitions

* `Binary.shortest` — the digits and the exponent of the first of them.
* `Layout` — which exponents are written out, and how wide an exponent is.
* `Binary.numeral` — the numeral of a finite number in a layout.
-/

namespace ChatGateway

/-! ## Digits -/

/-- The reals that round to a number, between two fractions of one denominator;
the number itself is the third fraction. -/
structure RoundingInterval where
  low : Nat
  mid : Nat
  high : Nat
  den : Nat
  /-- The ends belong to the interval: an even mantissa wins its ties. -/
  closed : Bool
  deriving Repr

/-- The rounding interval of `m * 2 ^ e`.  Below a power of two the next number
is only half as far away. -/
def RoundingInterval.ofMantissa (f : BinaryFormat) (m : Nat) (e : Int) : RoundingInterval :=
  let below := if m = Nat.pow 2 (f.precision - 1) ∧ f.minExponent < e then 1 else 2
  let scale := if 0 ≤ e - 2 then Nat.pow 2 (e - 2).toNat else 1
  let den := if 0 ≤ e - 2 then 1 else Nat.pow 2 (2 - e).toNat
  ⟨(4 * m - below) * scale, 4 * m * scale, (4 * m + 2) * scale, den, m % 2 == 0⟩

/-- Whether `c * 10 ^ k` lies in the interval. -/
def RoundingInterval.holds (r : RoundingInterval) (c : Nat) (k : Int) : Bool :=
  let up := Nat.pow 10 k.toNat
  let down := Nat.pow 10 (-k).toNat
  let x := c * up * r.den
  if r.closed then r.low * down ≤ x && x ≤ r.high * down
  else r.low * down < x && x < r.high * down

/-- How far `c * 10 ^ k` is from the number, in units that depend on `k` alone. -/
def RoundingInterval.distance (r : RoundingInterval) (c : Nat) (k : Int) : Nat :=
  let x := c * Nat.pow 10 k.toNat * r.den
  let y := r.mid * Nat.pow 10 (-k).toNat
  (x - y) + (y - x)

/-- More decimal places than the smallest double has zeros after its point. -/
def decimalReach : Nat := 400

/-- How many digits stand before the point of `mid / den`; not positive for a
number below one tenth. -/
def RoundingInterval.pointPosition (r : RoundingInterval) : Int :=
  ((decimalDigits (r.mid * Nat.pow 10 decimalReach / r.den)).length : Int) - decimalReach

/-- The better of the two neighbours of the number on the grid of `10 ^ k`, if
one of them rounds to it. -/
def RoundingInterval.onGrid? (r : RoundingInterval) (k : Int) : Option Nat :=
  let lower := r.mid * Nat.pow 10 (-k).toNat / (r.den * Nat.pow 10 k.toNat)
  let upper := lower + 1
  match r.holds lower k, r.holds upper k with
  | true, true =>
    let dl := r.distance lower k
    let du := r.distance upper k
    if dl < du then some lower
    else if du < dl then some upper
    else if lower % 2 = 0 then some lower else some upper
  | true, false => some lower
  | false, true => some upper
  | false, false => none

/-- The first grid with a hit, starting at the given number of digits. -/
def RoundingInterval.search (r : RoundingInterval) (point : Int) : (digits fuel : Nat) → Nat × Int
  | digits, 0 => (r.mid / r.den, point - digits)
  | digits, fuel + 1 =>
    let k := point - digits
    match r.onGrid? k with
    | some c => (c, k)
    | none => r.search point (digits + 1) fuel

/-- Digits without the zeros that end them, and at least one digit. -/
def trimZeros (ds : List Char) : List Char :=
  match ds.reverse.dropWhile (· == '0') with
  | [] => ['0']
  | rest => rest.reverse

/-- The fewest digits that read back as `m * 2 ^ e`, and the power of ten of the
first of them.  Seventeen digits always suffice for a double. -/
def Binary.shortest (f : BinaryFormat) (m : Nat) (e : Int) : List Char × Int :=
  if m = 0 then (['0'], 0)
  else
    let r := RoundingInterval.ofMantissa f m e
    let (c, k) := r.search r.pointPosition 1 17
    let ds := decimalDigits c
    (trimZeros ds, k + ds.length - 1)

/-! ## Layout -/

/-- How digits become a numeral. -/
structure Layout where
  /-- The least exponent that is written out with leading zeros. -/
  lowest : Int
  /-- The greatest exponent that is written out in full. -/
  highest : Int
  /-- The least number of digits of an exponent that is written. -/
  exponentWidth : Nat
  deriving DecidableEq, Repr

/-- Digits padded with zeros on the left. -/
def padLeft (width : Nat) (ds : List Char) : List Char :=
  List.replicate (width - ds.length) '0' ++ ds

/-- The numeral of a row of digits whose first has the given power of ten.  A
number that is written out always has a digit after its point. -/
def Layout.numeral (l : Layout) (negative : Bool) (ds : List Char) (x : Int) : Numeral :=
  if l.lowest ≤ x ∧ x ≤ l.highest then
    if x < 0 then ⟨negative, ['0'], List.replicate (-x - 1).toNat '0' ++ ds, none⟩
    else
      let n := x.toNat + 1
      if ds.length ≤ n then
        ⟨negative, ds ++ List.replicate (n - ds.length) '0', ['0'], none⟩
      else ⟨negative, ds.take n, ds.drop n, none⟩
  else
    ⟨negative, ds.take 1, ds.drop 1, some (x < 0, padLeft l.exponentWidth (decimalDigits x.natAbs))⟩

/-- The numeral of a finite number in a layout; an infinite one has none. -/
def Binary.numeral? (f : BinaryFormat) (l : Layout) : Binary → Option Numeral
  | .finite s m e =>
    let (ds, x) := Binary.shortest f m e
    some (l.numeral s ds x)
  | .infinite _ => none

end ChatGateway

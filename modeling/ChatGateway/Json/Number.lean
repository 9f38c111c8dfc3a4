import ChatGateway.Binary.Shortest
import ChatGateway.Word

/-!
# What a JSON number is worth

An integer that fits a 64-bit word, signed or unsigned, is itself.  Every other
number is a double, and it is not always the nearest one: the digits that fit a
64-bit word make a significand, and the significand is multiplied or divided by
one power of ten, each step rounded.  Digits past the significand only move the
point.  A number whose magnitude leaves the range of doubles is no number at
all, and minus zero is a double, because no integer keeps its sign.

## Main definitions

* `Number` — an integer of 64 bits or a double.
* `Numeral.value?` — the worth of a numeral.
* `doubleLayout`, `singleLayout` — how JSON writes doubles and single-precision
  numbers.
-/

namespace ChatGateway

/-- The worth of a JSON number. -/
inductive Number where
  /-- An integer between `-2 ^ 63` and `2 ^ 64 - 1`. -/
  | integer (i : Int)
  /-- Any other number, as a double. -/
  | real (x : Binary)
  deriving DecidableEq, Repr

/-- JSON writes doubles out from `0.00001` to sixteen digits before the point. -/
def doubleLayout : Layout := ⟨-5, 15, 1⟩

/-- JSON writes single-precision numbers out from `0.000001` to thirteen digits
before the point. -/
def singleLayout : Layout := ⟨-6, 12, 1⟩

namespace Number

/-- The number of the significand in a row of digits, taken as long as it fits a
64-bit word, and the number of digits taken. -/
def absorb (significand : Nat) : List Char → Nat × Nat
  | [] => (significand, 0)
  | c :: rest =>
    let next := significand * 10 + digitValue c
    if next ≤ word64Max then
      let (s, n) := absorb next rest
      (s, n + 1)
    else (significand, 0)

/-- The largest power of ten that is a double. -/
def largestPower : Nat := 308

/-- The double of a power of ten. -/
def powerOfTen (n : Nat) : Binary :=
  Binary.ofNat binary64 (Nat.pow 10 n)

/-- A double times a power of ten, one rounding for each factor.  A power too
small for one division is divided out in several; past the largest double there
is no result. -/
def scale? (x : Binary) (exponent : Int) : Option Binary :=
  if exponent.natAbs ≤ largestPower then
    if 0 ≤ exponent then
      let y := Binary.mul binary64 x (powerOfTen exponent.toNat)
      if y.isInfinite then none else some y
    else some (Binary.div binary64 x (powerOfTen exponent.natAbs))
  else if x.isZero then some x
  else if 0 ≤ exponent then none
  else scale? (Binary.div binary64 x (powerOfTen largestPower)) (exponent + largestPower)
termination_by (-exponent).toNat
decreasing_by
  simp only [largestPower] at *
  omega

end Number

/-- The worth of a numeral, or nothing where it leaves the range of doubles. -/
def Numeral.value? (n : Numeral) : Option Number :=
  let (significand, taken) := Number.absorb 0 n.whole
  let dropped := n.whole.length - taken
  let (significand, places) := Number.absorb significand n.fraction
  let power : Int := match n.exponent with
    | none => 0
    | some (below, ds) => if below then -(digitsValue ds : Int) else digitsValue ds
  if dropped = 0 ∧ n.fraction = [] ∧ n.exponent = none ∧
      (if n.negative then 1 ≤ significand ∧ significand ≤ 9223372036854775808 else True) then
    some (.integer (if n.negative then -(significand : Int) else significand))
  else
    (Number.scale? (Binary.ofNat binary64 significand) (dropped - places + power)).map fun x =>
      .real (if n.negative then x.neg else x)

/-- The numeral of a number as JSON writes it; an infinite double has none. -/
def Number.numeral? : Number → Option Numeral
  | .integer i => some (.ofInt i)
  | .real x => x.numeral? binary64 doubleLayout

end ChatGateway

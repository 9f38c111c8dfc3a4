/-!
# Binary floating point

A floating-point number is a sign, a natural mantissa and a power of two, and
arithmetic on it is exact arithmetic on fractions followed by one rounding.
Nothing here uses the machine's own floating point, so every result can be
computed and reasoned about.  There is no not-a-number: none of the operations
offered can produce one from what the library feeds them.

## Main definitions

* `BinaryFormat` — a precision and a range of exponents; `binary32`, `binary64`.
* `roundQuotient` — the integer nearest to a quotient, a tie to the even one.
* `Binary.ofRatio` — the number of a format nearest to a fraction.
* `Binary.mul`, `Binary.div`, `Binary.convert` — one rounding of the exact result.
-/

namespace ChatGateway

/-! ## Formats -/

/-- A floating-point format: how many bits a mantissa has, and the exponents
its unit in the last place may have. -/
structure BinaryFormat where
  /-- Bits of a full mantissa. -/
  precision : Nat
  /-- The exponent of the smallest unit. -/
  minExponent : Int
  /-- The exponent of the largest unit. -/
  maxExponent : Int
  deriving DecidableEq, Repr

/-- Single precision. -/
def binary32 : BinaryFormat := ⟨24, -149, 104⟩

/-- Double precision. -/
def binary64 : BinaryFormat := ⟨53, -1074, 971⟩

/-- A floating-point number, `mantissa * 2 ^ exponent` up to its sign, or a
number past the end of the range. -/
inductive Binary where
  | finite (negative : Bool) (mantissa : Nat) (exponent : Int)
  | infinite (negative : Bool)
  deriving DecidableEq, Repr

/-! ## Rounding -/

/-- The natural number nearest to `num / den`; halfway between two, the even
one. -/
def roundQuotient (num den : Nat) : Nat :=
  let q := num / den
  let twice := 2 * (num % den)
  if twice < den then q
  else if den < twice then q + 1
  else if q % 2 = 0 then q else q + 1

/-- An exact quotient is not moved by rounding. -/
theorem roundQuotient_mul_left (q : Nat) {den : Nat} (h : 0 < den) :
    roundQuotient (q * den) den = q := by
  simp [roundQuotient, Nat.mul_div_cancel q h, h]

/-- Rounding moves a quotient by at most half a unit. -/
theorem roundQuotient_close (num : Nat) {den : Nat} (h : 0 < den) :
    2 * num ≤ 2 * (den * roundQuotient num den) + den ∧
      2 * (den * roundQuotient num den) ≤ 2 * num + den := by
  have hdiv := Nat.div_add_mod num den
  have hlt := Nat.mod_lt num h
  have hsucc : den * (num / den + 1) = den * (num / den) + den := by
    rw [Nat.mul_add, Nat.mul_one]
  simp only [roundQuotient]
  split
  · omega
  · split
    · rw [hsucc]; omega
    · split
      · omega
      · rw [hsucc]; omega

/-- The fraction `num / den` counted in units of `2 ^ e`, again as a fraction. -/
def inUnits (num den : Nat) (e : Int) : Nat × Nat :=
  if 0 ≤ e then (num, den * Nat.pow 2 e.toNat) else (num * Nat.pow 2 (-e).toNat, den)

namespace Binary

/-- The exponent of the unit in the last place for a fraction of this size: the
one that gives the mantissa all its bits, but no smaller than the format has. -/
def unitExponent (f : BinaryFormat) (num den : Nat) : Int :=
  let span : Int := (Nat.log2 num : Int) - Nat.log2 den
  let (n, d) := inUnits num den span
  let leading := if d ≤ n then span else span - 1
  max f.minExponent (leading - f.precision + 1)

/-- The number of the format nearest to a fraction, ties to the even mantissa;
past the largest number of the format, infinity. -/
def ofRatio (f : BinaryFormat) (negative : Bool) (num den : Nat) : Binary :=
  if num = 0 then .finite negative 0 f.minExponent
  else
    let e := unitExponent f num den
    let (n, d) := inUnits num den e
    let m := roundQuotient n d
    let (m, e) := if m = Nat.pow 2 f.precision then (Nat.pow 2 (f.precision - 1), e + 1) else (m, e)
    if f.maxExponent < e then .infinite negative else .finite negative m e

/-- The number of the format nearest to a natural number. -/
def ofNat (f : BinaryFormat) (n : Nat) : Binary :=
  ofRatio f false n 1

/-- The number of the format nearest to an integer. -/
def ofInt (f : BinaryFormat) (i : Int) : Binary :=
  ofRatio f (i < 0) i.natAbs 1

/-- The opposite number. -/
def neg : Binary → Binary
  | .finite s m e => .finite (!s) m e
  | .infinite s => .infinite (!s)

/-- Whether the number is a zero of either sign. -/
def isZero : Binary → Bool
  | .finite _ m _ => m == 0
  | .infinite _ => false

/-- Whether the number lies past the end of the range. -/
def isInfinite : Binary → Bool
  | .finite .. => false
  | .infinite _ => true

/-- The magnitude of a mantissa and an exponent as a fraction. -/
def ratio (m : Nat) (e : Int) : Nat × Nat :=
  if 0 ≤ e then (m * Nat.pow 2 e.toNat, 1) else (m, Nat.pow 2 (-e).toNat)

/-- The product, rounded once. -/
def mul (f : BinaryFormat) : Binary → Binary → Binary
  | .finite s m e, .finite s' m' e' =>
    let (n, d) := ratio (m * m') (e + e')
    ofRatio f (s != s') n d
  | .finite s .., .infinite s' => .infinite (s != s')
  | .infinite s, .finite s' .. => .infinite (s != s')
  | .infinite s, .infinite s' => .infinite (s != s')

/-- The quotient by a number that is not zero, rounded once. -/
def div (f : BinaryFormat) : Binary → Binary → Binary
  | .finite s m e, .finite s' m' e' =>
    let (n, d) := ratio m (e - e')
    ofRatio f (s != s') n (d * m')
  | .finite s .., .infinite s' => .finite (s != s') 0 f.minExponent
  | .infinite s, .finite s' .. => .infinite (s != s')
  | .infinite s, .infinite s' => .infinite (s != s')

/-- The nearest number of another format. -/
def convert (f : BinaryFormat) : Binary → Binary
  | .finite s m e =>
    let (n, d) := ratio m e
    ofRatio f s n d
  | .infinite s => .infinite s

end Binary

end ChatGateway

import ChatGateway.Proofs.Binary.Rounding

/-!
# What a double loses

A fraction below a power of two is rounded by half a unit at most, and the unit is 2 ^ 52 times
smaller than the power.  So a natural number up to 2 ^ 52 loses nothing, whatever fraction it is
written as, and neither do products of such numbers that are as small.

## Main definitions

* `Binary.ofRatio_close` — how near a fraction and its double are.
* `Binary.IsNat` — a double that is a natural number.
* `Binary.IsNat.mul_close` — how near a product with such a number and its double are.
* `Binary.isNat_ofRatio`, `Binary.IsNat.mul` — fractions and products that are natural numbers.
-/

namespace ChatGateway

/-- Multiples that are less than a unit apart are the same. -/
theorem eq_of_mul_lt_mul_add {a b c : Nat} (below : a * c < b * c + c)
    (above : b * c < a * c + c) : a = b := by
  rw [← Nat.succ_mul] at below above
  have := Nat.lt_of_mul_lt_mul_right below
  have := Nat.lt_of_mul_lt_mul_right above
  omega

/-- The natural number that is less than half a unit from a quotient is the one it is rounded
to. -/
theorem roundQuotient_eq {num den q : Nat} (pos : 0 < den) (above : 2 * num < 2 * (q * den) + den)
    (below : 2 * (q * den) < 2 * num + den) : roundQuotient num den = q := by
  have close := roundQuotient_close num pos
  rw [Nat.mul_comm den] at close
  exact eq_of_mul_lt_mul_add (c := den) (by omega) (by omega)

namespace Binary

variable {n n' num den L : Nat} {x y : Binary}

theorem inUnits_neg (num den k : Nat) : inUnits num den (-k) = (num * 2 ^ k, den) := by
  simp only [inUnits]
  split
  · obtain rfl : k = 0 := by omega
    simp
  · rw [Int.neg_neg, Int.toNat_natCast, Nat.pow_eq]

theorem ratio_neg (m k : Nat) : ratio m (-k) = (m, 2 ^ k) := by
  simp only [ratio]
  split
  · obtain rfl : k = 0 := by omega
    simp
  · rw [Int.neg_neg, Int.toNat_natCast, Nat.pow_eq]

/-- A fraction below a power of two is rounded by half a unit at most. -/
theorem ofRatio_close (negative : Bool) (pos : 0 < den) (room : L ≤ 52) (le : num ≤ 2 ^ L * den) :
    ∃ m k : Nat, ofRatio binary64 negative num den = .finite negative m (-k) ∧ 52 ≤ k + L ∧
      2 * (m * den) ≤ 2 * (num * 2 ^ k) + den ∧ 2 * (num * 2 ^ k) ≤ 2 * (m * den) + den := by
  have exponent := unitExponent_le le
  obtain ⟨k, unit⟩ : ∃ k : Nat, unitExponent binary64 num den = -k :=
    ⟨(-unitExponent binary64 num den).toNat, by omega⟩
  rw [unit] at exponent
  have close := roundQuotient_close (num * 2 ^ k) pos
  have mantissa : roundQuotient (num * 2 ^ k) den ≤ 2 ^ (L + k) := by
    refine roundQuotient_le pos ?_
    calc num * 2 ^ k ≤ 2 ^ L * den * 2 ^ k := Nat.mul_le_mul_right _ le
      _ = 2 ^ (L + k) * den := by rw [Nat.pow_add]; ring
  rw [Nat.mul_comm den] at close
  simp only [ofRatio, unit, inUnits_neg]
  generalize roundQuotient (num * 2 ^ k) den = m at *
  by_cases zero : num = 0
  · rw [if_pos zero]
    refine ⟨0, 1074, rfl, by omega, ?_, ?_⟩
    · rw [Nat.zero_mul]
      exact Nat.zero_le _
    · rw [zero, Nat.zero_mul]
      exact Nat.zero_le _
  rw [if_neg zero]
  by_cases carry : m = Nat.pow 2 binary64.precision
  · -- the mantissa is halved, so the room for it must have been twice as large
    have halved : m = 2 ^ 53 := carry
    have wide : 53 ≤ L + k := (Nat.pow_le_pow_iff_right (by decide)).1 (halved ▸ mantissa)
    obtain ⟨k, rfl⟩ : ∃ k', k = k' + 1 := ⟨k - 1, by omega⟩
    have within : ¬ binary64.maxExponent < -((k + 1 : Nat) : Int) + 1 := by
      simp only [binary64]
      omega
    simp only [if_pos carry, if_neg within]
    rw [Nat.pow_succ, ← Nat.mul_assoc num, halved] at close
    refine ⟨2 ^ 52, k, ?_, by omega, by omega, by omega⟩
    congr 1
    omega
  · have within : ¬ binary64.maxExponent < -(k : Int) := by
      simp only [binary64]
      omega
    simp only [if_neg carry, if_neg within]
    exact ⟨m, k, rfl, by omega, close.2, close.1⟩

/-! ## Natural numbers -/

/-- The double is a natural number, counted in units of at most one. -/
def IsNat (n : Nat) (x : Binary) : Prop :=
  ∃ k : Nat, x = .finite false (n * 2 ^ k) (-k)

/-- A fraction that is a natural number is not rounded. -/
theorem isNat_ofRatio (pos : 0 < den) (small : n ≤ 2 ^ 52) :
    IsNat n (ofRatio binary64 false (n * den) den) := by
  obtain ⟨m, k, rounded, -, above, below⟩ :=
    ofRatio_close false pos (Nat.le_refl 52) (Nat.mul_le_mul_right den small)
  rw [Nat.mul_right_comm] at above below
  have mantissa : m = n * 2 ^ k := eq_of_mul_lt_mul_add (c := den) (by omega) (by omega)
  exact ⟨k, mantissa ▸ rounded⟩

theorem isNat_ofNat (small : n ≤ 2 ^ 52) : IsNat n (ofNat binary64 n) := by
  have whole := isNat_ofRatio Nat.one_pos small
  rwa [Nat.mul_one] at whole

/-- A product with a natural number is rounded by half a unit at most, whatever unit the number
is counted in. -/
theorem IsNat.mul_close (hx : IsNat n x) {c l : Nat} (room : L ≤ 52) (le : n * c ≤ 2 ^ L * 2 ^ l) :
    ∃ m k : Nat, mul binary64 x (.finite false c (-l)) = .finite false m (-k) ∧ 52 ≤ k + L ∧
      2 * (m * 2 ^ l) ≤ 2 * (n * c * 2 ^ k) + 2 ^ l ∧
      2 * (n * c * 2 ^ k) ≤ 2 * (m * 2 ^ l) + 2 ^ l := by
  obtain ⟨j, rfl⟩ := hx
  have exponents : -(j : Int) + -(l : Int) = -((l + j : Nat) : Int) := by omega
  have scale : 2 ^ (l + j) = 2 ^ l * 2 ^ j := Nat.pow_add 2 l j
  have below : n * c * 2 ^ j ≤ 2 ^ L * 2 ^ (l + j) := by
    rw [scale, ← Nat.mul_assoc]
    exact Nat.mul_le_mul_right _ le
  obtain ⟨m, k, rounded, fine, above, under⟩ :=
    ofRatio_close false (Nat.two_pow_pos (l + j)) room below
  refine ⟨m, k, ?_, fine, ?_, ?_⟩
  · simp only [Binary.mul, Nat.mul_right_comm n (2 ^ j) c, exponents, ratio_neg,
      bne_self_eq_false, rounded]
  · refine Nat.le_of_mul_le_mul_right ?_ (Nat.two_pow_pos j)
    calc 2 * (m * 2 ^ l) * 2 ^ j = 2 * (m * 2 ^ (l + j)) := by rw [scale]; ring
      _ ≤ 2 * (n * c * 2 ^ j * 2 ^ k) + 2 ^ (l + j) := above
      _ = (2 * (n * c * 2 ^ k) + 2 ^ l) * 2 ^ j := by rw [scale]; ring
  · refine Nat.le_of_mul_le_mul_right ?_ (Nat.two_pow_pos j)
    calc 2 * (n * c * 2 ^ k) * 2 ^ j = 2 * (n * c * 2 ^ j * 2 ^ k) := by ring
      _ ≤ 2 * (m * 2 ^ (l + j)) + 2 ^ (l + j) := under
      _ = (2 * (m * 2 ^ l) + 2 ^ l) * 2 ^ j := by rw [scale]; ring

theorem IsNat.mul (hx : IsNat n x) (hy : IsNat n' y) (small : n * n' ≤ 2 ^ 52) :
    IsNat (n * n') (mul binary64 x y) := by
  obtain ⟨l, rfl⟩ := hy
  have below : n * (n' * 2 ^ l) ≤ 2 ^ 52 * 2 ^ l := by
    rw [← Nat.mul_assoc]
    exact Nat.mul_le_mul_right _ small
  obtain ⟨m, k, rounded, -, above, under⟩ := hx.mul_close (Nat.le_refl 52) below
  have unit := Nat.two_pow_pos l
  have product : n * (n' * 2 ^ l) * 2 ^ k = n * n' * 2 ^ k * 2 ^ l := by ring
  rw [product] at above under
  have mantissa : m = n * n' * 2 ^ k := eq_of_mul_lt_mul_add (c := 2 ^ l) (by omega) (by omega)
  exact ⟨k, mantissa ▸ rounded⟩

end Binary

end ChatGateway

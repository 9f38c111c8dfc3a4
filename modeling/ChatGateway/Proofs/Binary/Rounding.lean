import ChatGateway.Binary.Basic
import Mathlib.Tactic.Ring

/-!
# Rounding stays below powers of two

A power of two is a number of the format, so what lies below it is rounded to a number that does
not lie above it.  This bounds what products, quotients and conversions of doubles are, and so
shows that they are finite.

## Main definitions

* `Binary.AtMost` — a finite number that is no larger than a power of two.
* `Binary.AtLeastOne` — a finite number that is no smaller than one.
* `Binary.atMost_ofRatio` — a fraction that is rounded.
* `Binary.AtMost.mul`, `Binary.AtMost.div`, `Binary.AtMost.convert` — arithmetic on doubles.
-/

namespace ChatGateway

/-- A quotient that is at most a natural number is not rounded above it. -/
theorem roundQuotient_le {num den q : Nat} (pos : 0 < den) (le : num ≤ q * den) :
    roundQuotient num den ≤ q := by
  have close := (roundQuotient_close num pos).2
  have twice : den * (2 * roundQuotient num den) ≤ den * (2 * q + 1) := by
    calc den * (2 * roundQuotient num den)
        = 2 * (den * roundQuotient num den) := by ring
      _ ≤ 2 * num + den := close
      _ ≤ 2 * (q * den) + den := by omega
      _ = den * (2 * q + 1) := by ring
  have := Nat.le_of_mul_le_mul_left twice pos
  omega

theorem log2_le_add {num den L : Nat} (le : num ≤ 2 ^ L * den) :
    num.log2 ≤ L + den.log2 := by
  by_cases zero : num = 0
  · simp [zero]
  · have below : num < 2 ^ (L + den.log2 + 1) := by
      calc num ≤ 2 ^ L * den := le
        _ < 2 ^ L * 2 ^ (den.log2 + 1) :=
          Nat.mul_lt_mul_of_pos_left Nat.lt_log2_self (Nat.two_pow_pos L)
        _ = 2 ^ (L + den.log2 + 1) := by rw [← Nat.pow_add, Nat.add_assoc]
    exact Nat.le_of_lt_succ ((Nat.log2_lt zero).2 below)

/-- Counted in units of a smaller power of two, a fraction stays below the power. -/
theorem inUnits_le {num den L : Nat} {e : Int} (le : num ≤ 2 ^ L * den) (small : e ≤ L) :
    (inUnits num den e).1 ≤ 2 ^ ((L : Int) - e).toNat * (inUnits num den e).2 := by
  simp only [inUnits]
  split
  · rename_i up
    have power : L = ((L : Int) - e).toNat + e.toNat := by omega
    calc num ≤ 2 ^ L * den := le
      _ = 2 ^ (((L : Int) - e).toNat + e.toNat) * den := by rw [← power]
      _ = 2 ^ ((L : Int) - e).toNat * (den * Nat.pow 2 e.toNat) := by
        rw [Nat.pow_add, Nat.pow_eq]
        ring
  · rename_i down
    have power : ((L : Int) - e).toNat = L + (-e).toNat := by omega
    calc num * Nat.pow 2 (-e).toNat ≤ 2 ^ L * den * Nat.pow 2 (-e).toNat :=
          Nat.mul_le_mul_right _ le
      _ = 2 ^ ((L : Int) - e).toNat * den := by
        rw [power, Nat.pow_add, Nat.pow_eq]
        ring

theorem inUnits_pos {num den : Nat} (e : Int) (pos : 0 < den) : 0 < (inUnits num den e).2 := by
  simp only [inUnits]
  split
  · exact Nat.mul_pos pos (Nat.two_pow_pos _)
  · exact pos

namespace Binary

variable {L L' : Nat} {x y : Binary}

/-- The number is finite, and at most a power of two in magnitude. -/
inductive AtMost (L : Nat) : Binary → Prop
  | finite {negative : Bool} {m : Nat} {e : Int} (small : e ≤ L)
      (le : m ≤ 2 ^ ((L : Int) - e).toNat) : AtMost L (.finite negative m e)

/-- The number is finite, and at least one in magnitude. -/
inductive AtLeastOne : Binary → Prop
  | finite {negative : Bool} {m : Nat} {e : Int} (le : 2 ^ (-e).toNat ≤ m) :
      AtLeastOne (.finite negative m e)

instance : DecidablePred AtLeastOne
  | .finite _ m e => decidable_of_iff (2 ^ (-e).toNat ≤ m) ⟨.finite, fun ⟨le⟩ => le⟩
  | .infinite _ => .isFalse nofun

theorem unitExponent_le {num den : Nat} (le : num ≤ 2 ^ L * den) :
    unitExponent binary64 num den ≤ max (-1074) ((L : Int) - 52) := by
  have span := log2_le_add le
  simp only [unitExponent, binary64]
  split <;> omega

/-- A fraction below a power of two, far from the end of the range, is rounded to a double
below the power. -/
theorem atMost_ofRatio (negative : Bool) {num den : Nat} (pos : 0 < den) (room : L ≤ 1022)
    (le : num ≤ 2 ^ L * den) : (ofRatio binary64 negative num den).AtMost L := by
  have exponent := unitExponent_le le
  have small : unitExponent binary64 num den ≤ L := by omega
  have mantissa : roundQuotient (inUnits num den (unitExponent binary64 num den)).1
      (inUnits num den (unitExponent binary64 num den)).2 ≤
        2 ^ ((L : Int) - unitExponent binary64 num den).toNat :=
    roundQuotient_le (inUnits_pos _ pos) (inUnits_le le small)
  simp only [ofRatio]
  generalize unitExponent binary64 num den = e at *
  generalize roundQuotient (inUnits num den e).1 (inUnits num den e).2 = m at *
  split
  · exact .finite (by simp only [binary64]; omega) (Nat.zero_le _)
  · by_cases carry : m = Nat.pow 2 binary64.precision
    · -- the mantissa is halved, so the room for it must have been twice as large
      have wide : 53 ≤ ((L : Int) - e).toNat := by
        rw [carry] at mantissa
        exact (Nat.pow_le_pow_iff_right (by decide)).1 mantissa
      have next : ((L : Int) - (e + 1)).toNat = ((L : Int) - e).toNat - 1 := by omega
      have within : ¬ binary64.maxExponent < e + 1 := by
        simp only [binary64]
        omega
      simp only [carry, if_true, if_neg within]
      refine .finite (by omega) ?_
      rw [next]
      exact Nat.pow_le_pow_right (by decide) (Nat.le_sub_one_of_lt wide)
    · have within : ¬ binary64.maxExponent < e := by
        simp only [binary64]
        omega
      simp only [if_neg carry, if_neg within]
      exact .finite small mantissa

/-! ## Arithmetic -/

theorem ratio_pos (m : Nat) (e : Int) : 0 < (ratio m e).2 := by
  simp only [ratio]
  split
  · exact Nat.one_pos
  · exact Nat.two_pow_pos _

/-- The fraction of a mantissa and an exponent, against a power of two. -/
theorem ratio_le {m K : Nat} {e : Int} (le : m ≤ 2 ^ K) (bound : (K : Int) + e ≤ L) :
    (ratio m e).1 ≤ 2 ^ L * (ratio m e).2 := by
  simp only [ratio]
  split
  · calc m * Nat.pow 2 e.toNat ≤ 2 ^ K * 2 ^ e.toNat := Nat.mul_le_mul_right _ le
      _ = 2 ^ (K + e.toNat) := (Nat.pow_add 2 K e.toNat).symm
      _ ≤ 2 ^ L := Nat.pow_le_pow_right (by decide) (by omega)
      _ = 2 ^ L * 1 := (Nat.mul_one _).symm
  · calc m ≤ 2 ^ K := le
      _ ≤ 2 ^ (L + (-e).toNat) := Nat.pow_le_pow_right (by decide) (by omega)
      _ = 2 ^ L * Nat.pow 2 (-e).toNat := Nat.pow_add 2 L (-e).toNat

theorem AtMost.convert (h : x.AtMost L) (room : L ≤ 1022) : (x.convert binary64).AtMost L := by
  cases h with
  | @finite negative m e small le =>
    exact atMost_ofRatio _ (ratio_pos m e) room (ratio_le le (by omega))

/-- A product is at most the product of the powers. -/
theorem AtMost.mul (hx : x.AtMost L) (hy : y.AtMost L') (room : L + L' ≤ 1022) :
    (Binary.mul binary64 x y).AtMost (L + L') := by
  cases hx with
  | @finite s m e small le =>
    cases hy with
    | @finite s' m' e' small' le' =>
      have product : m * m' ≤ 2 ^ (((L : Int) - e).toNat + ((L' : Int) - e').toNat) := by
        rw [Nat.pow_add]
        exact Nat.mul_le_mul le le'
      exact atMost_ofRatio _ (ratio_pos _ _) room (ratio_le product (by omega))

/-- Division by a number that is at least one makes nothing larger. -/
theorem AtMost.div (hx : x.AtMost L) (hy : y.AtLeastOne) (room : L ≤ 1022) :
    (Binary.div binary64 x y).AtMost L := by
  cases hx with
  | @finite s m e small le =>
    cases hy with
    | @finite s' m' e' divisor =>
      have pos : 0 < m' := Nat.lt_of_lt_of_le (Nat.two_pow_pos _) divisor
      have quotient : (ratio m (e - e')).1 ≤ 2 ^ (L + (-e').toNat) * (ratio m (e - e')).2 :=
        ratio_le le (by omega)
      refine atMost_ofRatio _ (Nat.mul_pos (ratio_pos _ _) pos) room ?_
      calc (ratio m (e - e')).1
          ≤ 2 ^ (L + (-e').toNat) * (ratio m (e - e')).2 := quotient
        _ = 2 ^ L * ((ratio m (e - e')).2 * 2 ^ (-e').toNat) := by rw [Nat.pow_add]; ring
        _ ≤ 2 ^ L * ((ratio m (e - e')).2 * m') :=
          Nat.mul_le_mul_left _ (Nat.mul_le_mul_left _ divisor)

end Binary

end ChatGateway

/-!
# Words

Counters of requests, tokens and cents are machine words that stop at their
ends instead of wrapping.  Each operation is one clamp of the exact result, and
its law says so in `Nat`, where the rest of the library reasons.

Other arithmetic is not meant to reach the ends of a word.  Where it does, the
program does not go on.

## Main definitions

* `satAdd`, `satSub`, `satMul` — 64-bit sum, difference and product, clamped.
* `ceilDiv` — the quotient rounded up.
* `satAdd32` — the 32-bit sum, clamped.
* `Panic`, `checkedInt64` — a program that does not go on; a result that a signed
  word has to hold.
-/

namespace ChatGateway

/-- The largest 64-bit word, as a number. -/
def word64Max : Nat := 18446744073709551615

/-- The largest 32-bit word, as a number. -/
def word32Max : Nat := 4294967295

/-- The smallest signed 64-bit word, as a number. -/
def int64Min : Int := -9223372036854775808

/-- The largest signed 64-bit word, as a number. -/
def int64Max : Int := 9223372036854775807

/-- A 64-bit word is at most `word64Max`. -/
theorem toNat_le_word64Max (a : UInt64) : a.toNat ≤ word64Max := by
  have := a.toNat_lt
  simp only [word64Max]
  omega

/-- A 32-bit word is at most `word32Max`. -/
theorem toNat_le_word32Max (a : UInt32) : a.toNat ≤ word32Max := by
  have := a.toNat_lt
  simp only [word32Max]
  omega

/-! ## Clamping -/

/-- The nearest 64-bit word to a number: the number itself, or the largest word. -/
def clamp64 (n : Nat) : UInt64 :=
  UInt64.ofNat (min n word64Max)

/-- The nearest 32-bit word to a number: the number itself, or the largest word. -/
def clamp32 (n : Nat) : UInt32 :=
  UInt32.ofNat (min n word32Max)

@[simp] theorem toNat_clamp64 (n : Nat) : (clamp64 n).toNat = min n word64Max := by
  have : min n word64Max < 2 ^ 64 := by simp only [word64Max]; omega
  simp only [clamp64, UInt64.toNat_ofNat', Nat.mod_eq_of_lt this]

@[simp] theorem toNat_clamp32 (n : Nat) : (clamp32 n).toNat = min n word32Max := by
  have : min n word32Max < 2 ^ 32 := by simp only [word32Max]; omega
  simp only [clamp32, UInt32.toNat_ofNat', Nat.mod_eq_of_lt this]

/-! ## Arithmetic -/

/-- The sum, or the largest word where the sum does not fit. -/
def satAdd (a b : UInt64) : UInt64 :=
  clamp64 (a.toNat + b.toNat)

/-- The difference, or zero where it would be negative. -/
def satSub (a b : UInt64) : UInt64 :=
  clamp64 (a.toNat - b.toNat)

/-- The product, or the largest word where the product does not fit. -/
def satMul (a b : UInt64) : UInt64 :=
  clamp64 (a.toNat * b.toNat)

/-- The quotient rounded up.  It never exceeds the dividend for a positive
divisor, so nothing is lost to the clamp. -/
def ceilDiv (a b : UInt64) : UInt64 :=
  clamp64 ((a.toNat + (b.toNat - 1)) / b.toNat)

/-- The 32-bit sum, or the largest 32-bit word where the sum does not fit. -/
def satAdd32 (a b : UInt32) : UInt32 :=
  clamp32 (a.toNat + b.toNat)

@[simp] theorem toNat_satAdd (a b : UInt64) :
    (satAdd a b).toNat = min (a.toNat + b.toNat) word64Max := by
  simp [satAdd]

@[simp] theorem toNat_satSub (a b : UInt64) : (satSub a b).toNat = a.toNat - b.toNat := by
  have := toNat_le_word64Max a
  simp only [satSub, toNat_clamp64]
  omega

@[simp] theorem toNat_satMul (a b : UInt64) :
    (satMul a b).toNat = min (a.toNat * b.toNat) word64Max := by
  simp [satMul]

@[simp] theorem toNat_satAdd32 (a b : UInt32) :
    (satAdd32 a b).toNat = min (a.toNat + b.toNat) word32Max := by
  simp [satAdd32]

/-- Nothing is lost when the divisor is positive: the rounded-up quotient is at
most the dividend. -/
theorem toNat_ceilDiv (a b : UInt64) (hb : 0 < b.toNat) :
    (ceilDiv a b).toNat = (a.toNat + (b.toNat - 1)) / b.toNat := by
  have ha := toNat_le_word64Max a
  have : (a.toNat + (b.toNat - 1)) / b.toNat ≤ a.toNat := by
    rcases Nat.eq_zero_or_pos a.toNat with h0 | h0
    · have : (a.toNat + (b.toNat - 1)) / b.toNat = 0 := Nat.div_eq_of_lt (by omega)
      omega
    · have hmul : a.toNat ≤ a.toNat * b.toNat := Nat.le_mul_of_pos_right a.toNat hb
      have : (a.toNat + (b.toNat - 1)) / b.toNat < a.toNat + 1 := by
        rw [Nat.div_lt_iff_lt_mul hb, Nat.add_mul]
        omega
      omega
  simp only [ceilDiv, toNat_clamp64]
  omega

/-! ## Checked results -/

/-- Why a program does not go on. -/
inductive Panic where
  /-- No word holds a result. -/
  | overflow
  deriving DecidableEq, Repr

/-- A number is a signed 64-bit word. -/
def IsInt64 (n : Int) : Prop :=
  int64Min ≤ n ∧ n ≤ int64Max

instance (n : Int) : Decidable (IsInt64 n) :=
  inferInstanceAs (Decidable (_ ∧ _))

/-- A result that a signed 64-bit word has to hold. -/
def checkedInt64 (n : Int) : Except Panic Int :=
  if IsInt64 n then .ok n else .error .overflow

theorem checkedInt64_of_isInt64 {n : Int} (held : IsInt64 n) : checkedInt64 n = .ok n :=
  if_pos held

theorem checkedInt64_of_not_isInt64 {n : Int} (beyond : ¬ IsInt64 n) :
    checkedInt64 n = .error .overflow :=
  if_neg beyond

end ChatGateway

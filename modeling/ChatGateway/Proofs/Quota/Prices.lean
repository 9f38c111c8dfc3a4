import ChatGateway.Quota.Pricing
import Mathlib.Algebra.Order.Floor.Div
import Mathlib.Data.List.Induction
import Mathlib.GroupTheory.GroupAction.Ring

/-!
# Prices, rounded up

A model has the rate that was set for it last, or the default.  The price of tokens is the exact
quotient of tokens times rate by a thousand, rounded up, and grows with both of them.

The product is held in a word before it is divided, so a price is exact only up to a thousandth
of the largest word.  What costs more is charged as this and no more, although a word would hold
its price.  No call gets there, whatever tokens its provider reports, at rates up to 2 ^ 31.

## Main definitions

* `lastRate` — the rate of a model.
* `exactPrice` — the price in exact numbers.
* `highestPrice` — the most that is ever charged.
* `price_exact_up_to_highest` — what is charged, and when it is the price.
-/

namespace ChatGateway

/-! ## Rates -/

/-- The rate of a model: that of its last setting, or the default. -/
def lastRate (defaultRate : UInt64) (settings : List (String × UInt64)) (model : String) : UInt64 :=
  ((settings.filter fun setting => setting.1 = model).getLast?.map (·.2)).getD defaultRate

/-- Of the values that are written under a key the last stays. -/
theorem Dict.get?_ofList {α : Type} (l : List (String × α)) (k : String) :
    (Dict.ofList l).get? k = (l.filter fun e => e.1 = k).getLast?.map (·.2) := by
  induction l using List.reverseRecOn with
  | nil => rfl
  | append_singleton l e ih =>
    have written : Dict.ofList (l ++ [e]) = (Dict.ofList l).insert e.1 e.2 := by
      simp [Dict.ofList]
    rw [written, Dict.get?_insert, List.filter_append]
    by_cases own : k = e.1
    · simp [own]
    · simp [own, Ne.symm own, ih]

/-! ## Prices -/

/-- The price of tokens at a rate for every thousand: the least number of cents that covers it. -/
def exactPrice (rate tokens : UInt64) : Nat :=
  (tokens.toNat * rate.toNat) ⌈/⌉ 1000

/-- The most that is ever charged: a thousandth of the largest word, rounded up. -/
def highestPrice : Nat :=
  word64Max ⌈/⌉ 1000

theorem highestPrice_lt : highestPrice < word64Max := by decide

theorem monotone_ceilDiv_thousand : Monotone fun n : Nat => n ⌈/⌉ 1000 :=
  (gc_mul_ceilDiv (by decide)).monotone_l

theorem exactPrice_mono {rate rate' tokens tokens' : UInt64} (rates : rate ≤ rate')
    (amounts : tokens ≤ tokens') : exactPrice rate tokens ≤ exactPrice rate' tokens' :=
  monotone_ceilDiv_thousand (Nat.mul_le_mul amounts rates)

/-- What is charged is the price, up to the most that is ever charged. -/
theorem toNat_centsAt (rate tokens : UInt64) :
    (Pricing.centsAt rate tokens).toNat = min (exactPrice rate tokens) highestPrice := by
  have rounded : (Pricing.centsAt rate tokens).toNat =
      min (tokens.toNat * rate.toNat) word64Max ⌈/⌉ 1000 := by
    rw [Pricing.centsAt, toNat_ceilDiv _ _ (by decide), toNat_satMul, Nat.ceilDiv_eq_add_pred_div]
    rfl
  rw [rounded, monotone_ceilDiv_thousand.map_min]
  rfl

theorem toNat_estimate (defaultRate : UInt64) (settings : List (String × UInt64)) (model : String)
    (tokens : UInt64) :
    ((Pricing.flatRate defaultRate (.ofList settings)).estimate model tokens).toNat =
      min (exactPrice (lastRate defaultRate settings model) tokens) highestPrice := by
  rw [Pricing.estimate, Dict.get?_ofList, toNat_centsAt]
  rfl

/-- At rates up to 2 ^ 31, no three counts of tokens that a provider may report cost more than
is ever charged. -/
theorem exactPrice_usage_le {rate : UInt64} (moderate : rate.toNat ≤ 2 ^ 31) (usage : Usage) :
    exactPrice rate usage.tokens ≤ highestPrice := by
  have prompt := toNat_le_word32Max usage.promptTokens
  have completion := toNat_le_word32Max usage.completionTokens
  have total := toNat_le_word32Max usage.totalTokens
  have counted : usage.tokens.toNat ≤ 2 * word32Max := by
    rw [Usage.toNat_tokens]
    omega
  exact monotone_ceilDiv_thousand ((Nat.mul_le_mul counted moderate).trans (by decide))

/-- **A price is exact up to the highest.**  Tokens are charged at the rate that was set last for
the model, or at the default; what is charged is the exact price, or the highest where the price
is higher.  So it is what a word makes of the exact price exactly if that is not above the
highest, and otherwise it is less than the price.  It never falls when tokens or rate rise.  And
a finished call is always charged its price, at any rate up to 2 ^ 31. -/
theorem price_exact_up_to_highest (defaultRate : UInt64) (settings : List (String × UInt64))
    (model : String) (tokens : UInt64) :
    let pricing := Pricing.flatRate defaultRate (.ofList settings)
    let rate := lastRate defaultRate settings model
    let charged := (pricing.estimate model tokens).toNat
    charged = min (exactPrice rate tokens) highestPrice ∧
    (charged = min (exactPrice rate tokens) word64Max ↔ exactPrice rate tokens ≤ highestPrice) ∧
    (charged < exactPrice rate tokens ↔ highestPrice < exactPrice rate tokens) ∧
    (∀ defaultRate' settings' model' tokens', rate ≤ lastRate defaultRate' settings' model' →
      tokens ≤ tokens' →
        pricing.estimate model tokens ≤
          (Pricing.flatRate defaultRate' (.ofList settings')).estimate model' tokens') ∧
    ∀ usage : Usage, rate.toNat ≤ 2 ^ 31 →
      (pricing.actual model usage).toNat = exactPrice rate usage.tokens := by
  have charge := toNat_estimate defaultRate settings model
  have within := highestPrice_lt
  refine ⟨charge tokens, ?_, ?_, ?_, ?_⟩
  · rw [charge tokens]
    omega
  · rw [charge tokens]
    omega
  · intro defaultRate' settings' model' tokens' rates amounts
    rw [UInt64.le_iff_toNat_le, charge tokens, toNat_estimate]
    exact min_le_min_right _ (exactPrice_mono rates amounts)
  · intro usage moderate
    rw [Pricing.actual, charge usage.tokens, min_eq_left (exactPrice_usage_le moderate usage)]

/-- A price that a word holds, of which little more than half is charged. -/
theorem price_beyond_highest :
    exactPrice (lastRate 30 [] "gpt-4") 1000000000000000000 = 30000000000000000 ∧
      30000000000000000 ≤ word64Max ∧
      ((Pricing.flatRate 30 (.ofList [])).estimate "gpt-4" 1000000000000000000).toNat =
        18446744073709552 := by
  refine ⟨by decide, by decide, ?_⟩
  rw [toNat_estimate]
  decide

end ChatGateway

import ChatGateway.Proofs.Http.Outcomes
import ChatGateway.Proofs.Json.Numerals
import Mathlib.Data.List.TakeWhile

/-!
# Delays in whole seconds

A delay in whole seconds is a row of digits, of any length and with any zeros in front, possibly
between blanks.  If a word holds the number, it is announced: it counts for an hour at most, and
the provider is left alone for as long, or for longer if it was announced so before.

Digits that no word holds are read as a compound, and a compound needs units.  So a number past
the largest word announces nothing, where a smaller one announces an hour.

## Main definitions

* `IsWholeSeconds` — a header value that is a number of seconds.
* `Cooldowns.left` — for how long a provider is left alone.
* `ofHeader?_of_isWholeSeconds` — what such a value announces.
* `whole_seconds_announced_iff` — what becomes of it.
-/

namespace ChatGateway

/-! ## Rows of digits between blanks -/

namespace Delay

/-- A row of blanks. -/
def AreBlanks (cs : List Char) : Prop :=
  ∀ c ∈ cs, c = ' ' ∨ c = '\t'

instance (cs : List Char) : Decidable (AreBlanks cs) :=
  decidable_of_iff (cs.all isBlank = true) (by simp [AreBlanks, isBlank])

theorem AreBlanks.isBlank {cs : List Char} (h : AreBlanks cs) : ∀ c ∈ cs, isBlank c = true := by
  intro c mem
  simpa [Delay.isBlank] using h c mem

/-- A digit is visible, part of a number, and neither a blank nor a sign. -/
theorem of_isDigit {c : Char} (digit : c.isDigit = true) :
    isBlank c = false ∧ isNumberChar c = true ∧ c ≠ '+' ∧ 0x20 ≤ c.toNat ∧ c.toNat < 0x7F := by
  have bounds : 48 ≤ c.toNat ∧ c.toNat ≤ 57 := Char.isDigit_iff_toNat.1 digit
  have other : ∀ d : Char, d.toNat < 48 → c ≠ d := by
    rintro d before rfl
    omega
  refine ⟨?_, by simp [isNumberChar, digit], other _ (by decide), by omega, by omega⟩
  simp [isBlank, other ' ' (by decide), other '\t' (by decide)]

/-- Blanks at the front of a text that goes on with a digit are dropped, and no more. -/
theorem dropWhile_blanks {blanks ds : List Char} (blank : AreBlanks blanks)
    (some_digits : ds ≠ []) (digits : AreDigits ds) (rest : List Char) :
    (blanks ++ (ds ++ rest)).dropWhile isBlank = ds ++ rest := by
  obtain ⟨d, tail, rfl⟩ := List.exists_cons_of_ne_nil some_digits
  have stop := (of_isDigit (digits d List.mem_cons_self)).1
  rw [List.dropWhile_append_of_pos blank.isBlank, List.cons_append, List.dropWhile_cons_of_neg]
  simp [stop]

/-- Blanks around digits are trimmed. -/
theorem trimBlanks_digits {before ds after : List Char} (blankBefore : AreBlanks before)
    (blankAfter : AreBlanks after) (some_digits : ds ≠ []) (digits : AreDigits ds) :
    trimBlanks (before ++ (ds ++ after)) = ds := by
  have reversed : AreDigits ds.reverse := fun c mem => digits c (List.mem_reverse.1 mem)
  have blank : AreBlanks after.reverse := fun c mem => blankAfter c (List.mem_reverse.1 mem)
  have ended := dropWhile_blanks blank (by simpa using some_digits) reversed []
  rw [List.append_nil] at ended
  rw [trimBlanks, dropWhile_blanks blankBefore some_digits digits, List.reverse_append, ended,
    List.reverse_reverse]

/-- Digits are a number of seconds if a word holds it. -/
theorem wholeSeconds?_digits {ds : List Char} (some_digits : ds ≠ []) (digits : AreDigits ds) :
    wholeSeconds? ds =
      if Nat.ofDigitChars 10 ds 0 ≤ word64Max then some (Nat.ofDigitChars 10 ds 0) else none := by
  have all : ds.all Char.isDigit = true := List.all_eq_true.2 digits
  obtain ⟨d, tail, rfl⟩ := List.exists_cons_of_ne_nil some_digits
  have unsigned := (of_isDigit (digits d List.mem_cons_self)).2.2.1
  simp only [wholeSeconds?]
  split
  · rename_i same
    exact absurd (List.cons.inj same).1 unsigned
  · simp [all, digitsValue_eq]

/-- Digits without a unit are no compound. -/
theorem compound?_digits {ds : List Char} (some_digits : ds ≠ []) (digits : AreDigits ds) :
    compound? ds = none := by
  have numbers : ∀ c ∈ ds, isNumberChar c = true := fun c mem => (of_isDigit (digits c mem)).2.1
  have exhausted : ds.dropWhile isNumberChar = [] := List.dropWhile_eq_nil_iff.2 numbers
  have unitless : TimeUnit.read? (ds.dropWhile isNumberChar) = none := by
    rw [exhausted]
    rfl
  have no_parts : parts? ds = none := by
    rw [parts?, if_neg some_digits]
    split
    · rfl
    · rename_i read
      rw [unitless] at read
      cases read
  rw [compound?, if_neg some_digits, no_parts, Option.bind_none]

end Delay

/-- A header value that is a number of seconds: digits, possibly between blanks. -/
def IsWholeSeconds (value : String) (n : Nat) : Prop :=
  ∃ before digits after, value.toList = before ++ (digits ++ after) ∧
    Delay.AreBlanks before ∧ Delay.AreBlanks after ∧ digits ≠ [] ∧ AreDigits digits ∧
    Nat.ofDigitChars 10 digits 0 = n

/-- A number of seconds is a delay if a word holds it. -/
theorem ofHeader?_of_isWholeSeconds {value : String} {n : Nat} (h : IsWholeSeconds value n) :
    Delay.ofHeader? value = if n ≤ word64Max then some (n * Delay.second) else none := by
  obtain ⟨before, ds, after, spelled, blankBefore, blankAfter, some_digits, digits, rfl⟩ := h
  have readable : Delay.isReadable value = true := by
    have blank : ∀ cs, Delay.AreBlanks cs →
        ∀ c ∈ cs, c = '\t' ∨ 0x20 ≤ c.toNat ∧ c.toNat < 0x7F := by
      intro cs blanks c mem
      rcases blanks c mem with rfl | rfl
      · decide
      · decide
    simp only [Delay.isReadable, spelled, List.all_append, Bool.and_eq_true, List.all_eq_true,
      Bool.or_eq_true, decide_eq_true_eq]
    exact ⟨blank before blankBefore, fun c mem => .inr (Delay.of_isDigit (digits c mem)).2.2.2,
      blank after blankAfter⟩
  simp only [Delay.ofHeader?, readable, if_true, spelled,
    Delay.trimBlanks_digits blankBefore blankAfter some_digits digits,
    Delay.wholeSeconds?_digits some_digits digits, Delay.compound?_digits some_digits digits]
  by_cases held : Nat.ofDigitChars 10 ds 0 ≤ word64Max
  · simp only [if_pos held]
  · simp only [if_neg held]

/-! ## The cooldown -/

namespace Cooldowns

/-- The time for which a provider is still left alone; zero if it is not. -/
def left (c : Cooldowns) (now : Nat) (provider : String) : Nat :=
  (c.remaining? now provider).getD 0

theorem left_eq (c : Cooldowns) (now : Nat) (provider : String) :
    c.left now provider = (c.deadlines.get? provider).getD 0 - now := by
  cases found : c.deadlines.get? provider with
  | none => simp [left, remaining?, found]
  | some deadline =>
    simp only [left, remaining?, found, Option.bind_some, Option.getD_some]
    split
    · rfl
    · rw [Option.getD_none]
      omega

/-- A provider is left alone for the span from now on, or for longer if it was so before. -/
theorem left_hold (c : Cooldowns) (now : Nat) (provider : String) (span later : Nat) :
    (c.hold now provider span).left later provider =
      max (c.left later provider) (now + span - later) := by
  rw [left_eq, left_eq, get?_hold, if_pos rfl, Option.getD_some]
  cases c.deadlines.get? provider with
  | none => simp
  | some deadline =>
    simp only [Option.getD_some]
    omega

theorem remaining?_hold_of_ne (c : Cooldowns) (now : Nat) (provider : String) (span later : Nat)
    {other : String} (h : other ≠ provider) :
    (c.hold now provider span).remaining? later other = c.remaining? later other := by
  simp [remaining?, get?_hold, h]

/-- A number of seconds is noted if a word holds it, and otherwise passed over. -/
theorem record_of_isWholeSeconds {value : String} {n : Nat} (h : IsWholeSeconds value n)
    (others : List String) (c : Cooldowns) (now : Nat) (provider : String) :
    c.record now provider (value :: others) =
      if n ≤ word64Max then
        (some (min n 3600 * Delay.second), c.hold now provider (min n 3600 * Delay.second))
      else (none, c) := by
  have read := ofHeader?_of_isWholeSeconds h
  have capped : min (n * Delay.second) longestCooldown = min n 3600 * Delay.second :=
    (Nat.mul_min_mul_right n 3600 Delay.second)
  by_cases held : n ≤ word64Max
  · rw [if_pos held] at read ⊢
    exact record_of_announced (by simp [announced?, read, capped]) c now provider
  · rw [if_neg held] at read ⊢
    exact record_of_unannounced (by simp [announced?, read]) c now provider

end Cooldowns

/-- **A delay in whole seconds is announced exactly if a word holds it.**  Then it counts in full,
up to an hour; the provider is left alone for as long from then on, or for longer if it was so
before; nothing changes for other providers; and a longer delay that a word holds is never a
shorter cooldown.  A number past the largest word announces nothing and changes nothing.  It is
all the same to a limited answer that carries the value. -/
theorem whole_seconds_announced_iff {β : Type} {value : String} {n : Nat}
    (seconds : IsWholeSeconds value n) (others : List String) (c : Cooldowns) (now : Nat)
    (provider : String) :
    let noted := c.record now provider (value :: others)
    (noted.1 = some (min n 3600 * Delay.second) ↔ n ≤ word64Max) ∧
    (n ≤ word64Max → ∀ later,
      noted.2.left later provider =
        max (c.left later provider) (now + min n 3600 * Delay.second - later) ∧
      ∀ other, other ≠ provider → noted.2.remaining? later other = c.remaining? later other) ∧
    (∀ longer m, IsWholeSeconds longer m → n ≤ m → m ≤ word64Max → ∀ later,
      noted.2.left later provider ≤
        (c.record now provider (longer :: others)).2.left later provider) ∧
    (word64Max < n → noted = (none, c)) ∧
    ∀ (dec : Decoder β) (r : HttpResponse), ¬ (200 ≤ r.status ∧ r.status < 300) →
      (r.status = 429 ∨ SpeaksOfLimit (Utf8.decodeLenient r.body)) →
      r.retryAfter = value :: others → r.receivedAt = now →
        (receive dec c provider r).2 = noted.2 := by
  have record := Cooldowns.record_of_isWholeSeconds seconds others c now provider
  refine ⟨?_, ?_, ?_, ?_, ?_⟩
  · rw [record]
    by_cases held : n ≤ word64Max
    · simp [held]
    · simp [held]
  · intro held later
    rw [record, if_pos held]
    exact ⟨c.left_hold now provider _ later, fun other h =>
      c.remaining?_hold_of_ne now provider _ later h⟩
  · intro longer m announced le held later
    rw [record, if_pos (Nat.le_trans le held), Cooldowns.record_of_isWholeSeconds announced,
      if_pos held, Cooldowns.left_hold, Cooldowns.left_hold]
    have capped : min n 3600 * Delay.second ≤ min m 3600 * Delay.second :=
      Nat.mul_le_mul_right _ (by omega)
    omega
  · intro past
    rw [record, if_neg (by omega)]
  · intro dec r refused limit carried came
    have failed : isSuccess r.status = false :=
      Bool.eq_false_iff.2 fun success => refused (isSuccess_iff.1 success)
    rw [receive_of_refusal failed, if_pos (isRateLimit_iff.2 limit), carried, came]

/-- The largest word, with zeros in front and blanks around. -/
def paddedSeconds : String := "\t 0018446744073709551615  "

theorem isWholeSeconds_padded : IsWholeSeconds paddedSeconds word64Max :=
  ⟨['\t', ' '], "0018446744073709551615".toList, [' ', ' '], by decide, by decide, by decide,
    by decide, by decide, by decide⟩

/-- It is an hour, of which three nanoseconds have passed. -/
theorem whole_seconds_announced_iff_padded :
    IsWholeSeconds paddedSeconds word64Max ∧
    (({} : Cooldowns).record 7 "p" [paddedSeconds, "1"]).1 = some (3600 * Delay.second) ∧
    (({} : Cooldowns).record 7 "p" [paddedSeconds, "1"]).2.left 10 "p" =
      3600 * Delay.second - 3 := by
  obtain ⟨announced, cools, -⟩ := whole_seconds_announced_iff (β := String) isWholeSeconds_padded
    ["1"] {} 7 "p"
  exact ⟨isWholeSeconds_padded, announced.2 (Nat.le_refl _), (cools (Nat.le_refl _) 10).1⟩

/-- One second more than a word holds announces nothing, where one less announces an hour. -/
theorem second_past_word_unannounced :
    IsWholeSeconds "18446744073709551616" 18446744073709551616 ∧
    ({} : Cooldowns).record 0 "p" ["18446744073709551616"] = (none, {}) ∧
    (({} : Cooldowns).record 0 "p" ["18446744073709551615"]).1 = some (3600 * Delay.second) := by
  have past : IsWholeSeconds "18446744073709551616" 18446744073709551616 :=
    ⟨[], "18446744073709551616".toList, [], by decide, by decide, by decide, by decide, by decide,
      by decide⟩
  have held : IsWholeSeconds "18446744073709551615" word64Max :=
    ⟨[], "18446744073709551615".toList, [], by decide, by decide, by decide, by decide, by decide,
      by decide⟩
  refine ⟨past, ?_, ?_⟩
  · rw [Cooldowns.record_of_isWholeSeconds past, if_neg (by decide)]
  · rw [Cooldowns.record_of_isWholeSeconds held, if_pos (Nat.le_refl _)]
    rfl

end ChatGateway

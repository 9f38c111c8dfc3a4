import ChatGateway.Json.Number
import ChatGateway.Json.Token

/-!
# Numerals read back

A numeral whose parts are rows of digits is read back from its characters, whatever
follows, as long as what follows cannot belong to it.  The numeral of an integer is of this
kind, and it is worth that integer.

An exponent may be written in several ways, so a numeral may have several spellings.  They
are the texts that the reader takes for the numeral, and no others.

## Main definitions

* `Numeral.Proper` — numerals that follow the grammar.
* `Numeral.Spelled` — the ways of writing a numeral.
* `EndsNumeral` — what may follow a numeral.
* `Numeral.Spelled.read?_append` — a numeral is read back from each of its spellings.
* `Numeral.Spelled.of_read?` — what is read was a spelling.
* `value?_ofInt` — the worth of an integer's numeral.
-/

namespace ChatGateway

/-! ## Rows of digits -/

/-- A row of digits. -/
def AreDigits (ds : List Char) : Prop :=
  ∀ c ∈ ds, c.isDigit = true

instance (ds : List Char) : Decidable (AreDigits ds) :=
  decidable_of_iff (ds.all Char.isDigit = true) List.all_eq_true

/-- The text does not go on with a digit. -/
def NoDigit (rest : List Char) : Prop :=
  ∀ c tail, rest = c :: tail → c.isDigit = false

theorem NoDigit.nil : NoDigit [] := by
  intro c tail h
  cases h

theorem NoDigit.cons {c : Char} {tail : List Char} (h : c.isDigit = false) :
    NoDigit (c :: tail) := by
  intro c' tail' same
  cases same
  exact h

theorem spanDigits_of_noDigit {rest : List Char} (h : NoDigit rest) :
    spanDigits rest = ([], rest) := by
  cases rest with
  | nil => rfl
  | cons c tail => simp [spanDigits, h c tail rfl]

/-- All digits are taken, and no more. -/
theorem spanDigits_append {ds rest : List Char} (digits : AreDigits ds) (h : NoDigit rest) :
    spanDigits (ds ++ rest) = (ds, rest) := by
  have ended := spanDigits_of_noDigit h
  simp only [spanDigits, Prod.mk.injEq] at ended ⊢
  rw [List.takeWhile_append_of_pos digits, List.dropWhile_append_of_pos digits, ended.1, ended.2]
  simp

theorem areDigits_decimalDigits (n : Nat) : AreDigits (decimalDigits n) :=
  fun _ h => Nat.isDigit_of_mem_toDigits (by decide) (by decide) h

/-- A positive number is not written with a zero in front. -/
theorem head_decimalDigits {n : Nat} (h : 0 < n) :
    ∃ c ds, decimalDigits n = c :: ds ∧ c ≠ '0' := by
  induction n using Nat.strongRecOn with
  | _ n ih =>
    by_cases small : n < 10
    · refine ⟨n.digitChar, [], Nat.toDigits_of_lt_base small, ?_⟩
      simp [Nat.digitChar_eq_zero, Nat.pos_iff_ne_zero.1 h]
    · obtain ⟨c, ds, digits, nonzero⟩ := ih (n / 10) (by omega) (by omega)
      refine ⟨c, ds ++ [(n % 10).digitChar], ?_, nonzero⟩
      simp only [decimalDigits] at digits ⊢
      rw [Nat.toDigits_of_base_le (by decide) (by omega), digits, List.cons_append]

theorem isWhole_decimalDigits (n : Nat) : isWhole (decimalDigits n) = true := by
  by_cases zero : n = 0
  · subst zero
    rfl
  · obtain ⟨c, ds, digits, nonzero⟩ := head_decimalDigits (Nat.pos_of_ne_zero zero)
    rw [digits]
    unfold isWhole
    split <;> simp_all

/-! ## Proper numerals -/

/-- A numeral follows the grammar: its parts are rows of digits, and those that are written
are not empty. -/
structure Numeral.Proper (n : Numeral) : Prop where
  isWhole_eq : isWhole n.whole = true
  whole : AreDigits n.whole
  fraction : AreDigits n.fraction
  exponent : ∀ below ds, n.exponent = some (below, ds) → ds ≠ [] ∧ AreDigits ds

theorem Numeral.proper_ofInt (i : Int) : (Numeral.ofInt i).Proper where
  isWhole_eq := isWhole_decimalDigits i.natAbs
  whole := areDigits_decimalDigits i.natAbs
  fraction := by simp [Numeral.ofInt, AreDigits]
  exponent := by simp [Numeral.ofInt]

theorem Numeral.ofInt_natCast (n : Nat) : Numeral.ofInt n = .ofNat n := by
  simp [Numeral.ofInt, Numeral.ofNat]

theorem Numeral.proper_ofNat (n : Nat) : (Numeral.ofNat n).Proper :=
  Numeral.ofInt_natCast n ▸ Numeral.proper_ofInt n

/-- What may follow a numeral: nothing that could belong to it. -/
def EndsNumeral (rest : List Char) : Prop :=
  ∀ c tail, rest = c :: tail → c.isDigit = false ∧ c ≠ '.' ∧ c ≠ 'e' ∧ c ≠ 'E'

namespace EndsNumeral

theorem nil : EndsNumeral [] := by
  intro c tail h
  cases h

theorem cons {c : Char} {tail : List Char}
    (h : c.isDigit = false ∧ c ≠ '.' ∧ c ≠ 'e' ∧ c ≠ 'E') : EndsNumeral (c :: tail) := by
  intro c' tail' same
  cases same
  exact h

theorem comma (tail : List Char) : EndsNumeral (',' :: tail) :=
  cons (by decide)

theorem closeBracket (tail : List Char) : EndsNumeral (']' :: tail) :=
  cons (by decide)

theorem closeBrace (tail : List Char) : EndsNumeral ('\x7d' :: tail) :=
  cons (by decide)

theorem noDigit {rest : List Char} (h : EndsNumeral rest) : NoDigit rest :=
  fun c tail same => (h c tail same).1

end EndsNumeral

/-! ## Reading -/

section Reading

variable {rest : List Char}

theorem readMinus_of_digit {c : Char} {tail : List Char} (h : c.isDigit = true) :
    readMinus (c :: tail) = (false, c :: tail) := by
  unfold readMinus
  split
  · rename_i same
    cases same
    exact absurd h (by decide)
  · rfl

theorem readPower?_append {ds : List Char} (below : Bool) (some_digits : ds ≠ [])
    (digits : AreDigits ds) (h : NoDigit rest) :
    readPower? below (ds ++ rest) = some (some (below, ds), rest) := by
  simp only [readPower?, spanDigits_append digits h, if_neg some_digits]

/-- The characters of an exponent. -/
def exponentChars : Option (Bool × List Char) → List Char
  | none => []
  | some (below, ds) => 'e' :: (if below then '-' else '+') :: ds

/-- The ways of writing an exponent: with either letter, and without a sign if it is not below
zero. -/
inductive PowerSpelled : Option (Bool × List Char) → List Char → Prop
  | none : PowerSpelled none []
  | unsigned {e : Char} {ds : List Char} (letter : e = 'e' ∨ e = 'E') (some_digits : ds ≠ [])
      (digits : AreDigits ds) : PowerSpelled (some (false, ds)) (e :: ds)
  | signed {e : Char} {ds : List Char} (below : Bool) (letter : e = 'e' ∨ e = 'E')
      (some_digits : ds ≠ []) (digits : AreDigits ds) :
      PowerSpelled (some (below, ds)) (e :: (if below then '-' else '+') :: ds)

theorem powerSpelled_exponentChars {exponent : Option (Bool × List Char)}
    (proper : ∀ below ds, exponent = some (below, ds) → ds ≠ [] ∧ AreDigits ds) :
    PowerSpelled exponent (exponentChars exponent) := by
  cases exponent with
  | none => exact .none
  | some power =>
    obtain ⟨below, ds⟩ := power
    obtain ⟨some_digits, digits⟩ := proper below ds rfl
    exact .signed below (.inl rfl) some_digits digits

namespace PowerSpelled

variable {exponent : Option (Bool × List Char)} {power : List Char}

/-- An exponent is read back from each of its spellings. -/
theorem readExponent?_append (spelled : PowerSpelled exponent power) (h : EndsNumeral rest) :
    readExponent? (power ++ rest) = some (exponent, rest) := by
  cases spelled with
  | none =>
    cases rest with
    | nil => rfl
    | cons c tail =>
      obtain ⟨-, -, small, capital⟩ := h c tail rfl
      simp [readExponent?, small, capital]
  | @unsigned e ds letter some_digits digits =>
    have read := readPower?_append false some_digits digits h.noDigit
    obtain ⟨d, tail, rfl⟩ := List.exists_cons_of_ne_nil some_digits
    -- a digit is no sign
    have digit : d.isDigit = true := digits d List.mem_cons_self
    have plus : d ≠ '+' := by
      rintro rfl
      cases digit
    have minus : d ≠ '-' := by
      rintro rfl
      cases digit
    simp only [List.cons_append] at read ⊢
    simp only [readExponent?, if_pos letter]
    split
    · rename_i same
      exact absurd (List.cons.inj same).1 plus
    · rename_i same
      exact absurd (List.cons.inj same).1 minus
    · exact read
  | @signed e ds below letter some_digits digits =>
    have read := readPower?_append below some_digits digits h.noDigit
    cases below with
    | false => simpa [readExponent?, letter] using read
    | true => simpa [readExponent?, letter] using read

/-- An exponent that is written begins with a letter. -/
theorem head (spelled : PowerSpelled exponent power) :
    power = [] ∨ ∃ e tail, power = e :: tail ∧ (e = 'e' ∨ e = 'E') := by
  cases spelled with
  | none => exact .inl rfl
  | unsigned letter => exact .inr ⟨_, _, rfl, letter⟩
  | signed _ letter => exact .inr ⟨_, _, rfl, letter⟩

theorem noDigit (spelled : PowerSpelled exponent power) (h : EndsNumeral rest) :
    NoDigit (power ++ rest) := by
  obtain rfl | ⟨e, tail, rfl, letter⟩ := spelled.head
  · exact h.noDigit
  · refine .cons ?_
    rcases letter with rfl | rfl <;> decide

theorem noPoint (spelled : PowerSpelled exponent power) (h : EndsNumeral rest)
    (tail : List Char) : power ++ rest ≠ '.' :: tail := by
  obtain rfl | ⟨e, _, rfl, letter⟩ := spelled.head
  · exact fun same => (h '.' tail same).2.1 rfl
  · intro same
    obtain rfl : e = '.' := (List.cons.inj same).1
    rcases letter with letter | letter <;> cases letter

end PowerSpelled

/-- The characters of a fraction. -/
def fractionChars (ds : List Char) : List Char :=
  if ds = [] then [] else '.' :: ds

theorem readFraction?_append {ds : List Char} (digits : AreDigits ds) (noDigit : NoDigit rest)
    (noPoint : ∀ tail, rest ≠ '.' :: tail) :
    readFraction? (fractionChars ds ++ rest) = some (ds, rest) := by
  by_cases none_written : ds = []
  · subst none_written
    simp only [fractionChars, if_true, List.nil_append]
    unfold readFraction?
    split
    · exact absurd rfl (noPoint _)
    · rfl
  · simp only [fractionChars, if_neg none_written, List.cons_append, readFraction?,
      spanDigits_append digits noDigit]

theorem noDigit_fractionChars (ds : List Char) {rest : List Char} (h : NoDigit rest) :
    NoDigit (fractionChars ds ++ rest) := by
  by_cases none_written : ds = []
  · simpa [fractionChars, none_written] using h
  · rw [fractionChars, if_neg none_written]
    exact .cons (by decide)

theorem Numeral.chars_eq (n : Numeral) :
    n.chars =
      (if n.negative then ['-'] else []) ++
        (n.whole ++ (fractionChars n.fraction ++ exponentChars n.exponent)) := by
  obtain ⟨negative, whole, fraction, exponent⟩ := n
  cases exponent <;> simp [Numeral.chars, fractionChars, exponentChars]

theorem readMinus_append (negative : Bool) {whole : List Char} (isWhole_eq : isWhole whole = true)
    (digits : AreDigits whole) (rest : List Char) :
    readMinus ((if negative then ['-'] else []) ++ (whole ++ rest)) =
      (negative, whole ++ rest) := by
  cases negative with
  | true => rfl
  | false =>
    cases whole with
    | nil => cases isWhole_eq
    | cons c ds => exact readMinus_of_digit (digits c List.mem_cons_self)

namespace Numeral

/-- The ways of writing a numeral that follows the grammar. -/
inductive Spelled (n : Numeral) : List Char → Prop
  | mk {power : List Char} (proper : n.Proper) (written : PowerSpelled n.exponent power) :
      n.Spelled ((if n.negative then ['-'] else []) ++
        (n.whole ++ (fractionChars n.fraction ++ power)))

theorem Proper.spelled_chars {n : Numeral} (proper : n.Proper) : n.Spelled n.chars :=
  n.chars_eq ▸ .mk proper (powerSpelled_exponentChars proper.exponent)

/-- **A numeral is read back** from each of its spellings, and what follows is left. -/
theorem Spelled.read?_append {n : Numeral} {cs : List Char} (spelled : n.Spelled cs)
    (h : EndsNumeral rest) : Numeral.read? (cs ++ rest) = some (n, rest) := by
  obtain ⟨proper, written⟩ := spelled
  have noDigit := written.noDigit h
  have whole := spanDigits_append proper.whole (noDigit_fractionChars n.fraction noDigit)
  have fraction := readFraction?_append proper.fraction noDigit (written.noPoint h)
  simp only [Numeral.read?, List.append_assoc,
    readMinus_append n.negative proper.isWhole_eq proper.whole, whole, proper.isWhole_eq,
    if_true, fraction, written.readExponent?_append h]

end Numeral

/-! ## What is read was spelled -/

theorem spanDigits_sound (s : List Char) :
    s = (spanDigits s).1 ++ (spanDigits s).2 ∧ AreDigits (spanDigits s).1 := by
  refine ⟨List.takeWhile_append_dropWhile.symm, ?_⟩
  intro c taken
  exact List.all_eq_true.1 List.all_takeWhile c taken

theorem readMinus_sound (s : List Char) :
    s = (if (readMinus s).1 then ['-'] else []) ++ (readMinus s).2 := by
  unfold readMinus
  split <;> rfl

theorem readFraction?_sound {s ds : List Char} (h : readFraction? s = some (ds, rest)) :
    s = fractionChars ds ++ rest ∧ AreDigits ds := by
  unfold readFraction? at h
  split at h
  · simp only at h
    split at h
    case isTrue => cases h
    case isFalse some_digits =>
      cases h
      rename_i r
      obtain ⟨same, digits⟩ := spanDigits_sound r
      refine ⟨?_, digits⟩
      rw [fractionChars, if_neg some_digits, List.cons_append, ← same]
  · cases h
    exact ⟨rfl, by simp [AreDigits]⟩

theorem readPower?_sound {s : List Char} {below : Bool} {power : Option (Bool × List Char)}
    (h : readPower? below s = some (power, rest)) :
    ∃ ds, power = some (below, ds) ∧ s = ds ++ rest ∧ ds ≠ [] ∧ AreDigits ds := by
  simp only [readPower?] at h
  split at h
  case isTrue => cases h
  case isFalse some_digits =>
    cases h
    obtain ⟨same, digits⟩ := spanDigits_sound s
    exact ⟨_, rfl, same, some_digits, digits⟩

theorem readExponent?_sound {s : List Char} {exponent : Option (Bool × List Char)}
    (h : readExponent? s = some (exponent, rest)) :
    ∃ power, s = power ++ rest ∧ PowerSpelled exponent power := by
  unfold readExponent? at h
  split at h
  · split at h
    case isTrue letter =>
      split at h
      · obtain ⟨ds, rfl, rfl, some_digits, digits⟩ := readPower?_sound h
        exact ⟨_, rfl, .signed false letter some_digits digits⟩
      · obtain ⟨ds, rfl, rfl, some_digits, digits⟩ := readPower?_sound h
        exact ⟨_, rfl, .signed true letter some_digits digits⟩
      · obtain ⟨ds, rfl, rfl, some_digits, digits⟩ := readPower?_sound h
        exact ⟨_, rfl, .unsigned letter some_digits digits⟩
    case isFalse =>
      cases h
      exact ⟨[], rfl, .none⟩
  · cases h
    exact ⟨[], rfl, .none⟩

/-- An exponent that is written has digits. -/
theorem PowerSpelled.digits {exponent : Option (Bool × List Char)} {power : List Char}
    (spelled : PowerSpelled exponent power) :
    ∀ below ds, exponent = some (below, ds) → ds ≠ [] ∧ AreDigits ds := by
  rintro below ds rfl
  cases spelled with
  | unsigned _ some_digits digits => exact ⟨some_digits, digits⟩
  | signed _ _ some_digits digits => exact ⟨some_digits, digits⟩

/-- **What is read as a numeral is one of its spellings.** -/
theorem Numeral.Spelled.of_read? {s : List Char} {n : Numeral}
    (h : Numeral.read? s = some (n, rest)) : ∃ cs, s = cs ++ rest ∧ n.Spelled cs := by
  simp only [Numeral.read?] at h
  split at h
  case isFalse => cases h
  case isTrue isWhole_eq =>
    split at h
    · cases h
    · rename_i fraction afterFraction readFraction
      split at h
      · cases h
      · rename_i exponent afterExponent readExponent
        cases h
        have minus := readMinus_sound s
        obtain ⟨wholeSame, whole⟩ := spanDigits_sound (readMinus s).2
        obtain ⟨fractionSame, fractionDigits⟩ := readFraction?_sound readFraction
        obtain ⟨power, powerSame, written⟩ := readExponent?_sound readExponent
        refine ⟨_, ?_, .mk ⟨isWhole_eq, whole, fractionDigits, written.digits⟩ written⟩
        rw [List.append_assoc, List.append_assoc, List.append_assoc, ← powerSame, ← fractionSame,
          ← wholeSame, ← minus]

end Reading

/-! ## The worth of an integer's numeral -/

theorem digitsValue_eq (ds : List Char) : digitsValue ds = Nat.ofDigitChars 10 ds 0 := by
  simp only [digitsValue, Nat.ofDigitChars, digitValue, Nat.mul_comm]

theorem le_ofDigitChars (ds : List Char) (n : Nat) : n ≤ Nat.ofDigitChars 10 ds n := by
  induction ds generalizing n with
  | nil => simp
  | cons c ds ih =>
    rw [Nat.ofDigitChars_cons]
    exact Nat.le_trans (by omega) (ih _)

/-- Digits whose number fits a word are all taken. -/
theorem absorb_of_le {ds : List Char} {n : Nat} (h : Nat.ofDigitChars 10 ds n ≤ word64Max) :
    Number.absorb n ds = (Nat.ofDigitChars 10 ds n, ds.length) := by
  induction ds generalizing n with
  | nil => simp [Number.absorb]
  | cons c ds ih =>
    rw [Nat.ofDigitChars_cons] at h ⊢
    have next : n * 10 + digitValue c = 10 * n + (c.toNat - '0'.toNat) := by
      rw [Nat.mul_comm, digitValue]
    have fits : 10 * n + (c.toNat - '0'.toNat) ≤ word64Max :=
      Nat.le_trans (le_ofDigitChars ds _) h
    simp only [Number.absorb, next, if_pos fits, ih h, List.length_cons]

theorem absorb_decimalDigits {n : Nat} (h : n ≤ word64Max) :
    Number.absorb 0 (decimalDigits n) = (n, (decimalDigits n).length) := by
  have number : Nat.ofDigitChars 10 (decimalDigits n) 0 = n := Nat.ofDigitChars_ten_toDigits
  rw [absorb_of_le (number.symm ▸ h), number]

/-- **The numeral of an integer is worth the integer**, if a word of 64 bits holds it, with or
without a sign. -/
theorem value?_ofInt {i : Int} (low : int64Min ≤ i) (high : i ≤ word64Max) :
    (Numeral.ofInt i).value? = some (.integer i) := by
  simp only [int64Min, word64Max] at low high
  have fits : i.natAbs ≤ word64Max := by
    simp only [word64Max]
    omega
  have absorbed := absorb_decimalDigits fits
  simp only [Numeral.value?, Numeral.ofInt, absorbed, Number.absorb]
  by_cases negative : i < 0
  · have bounds : 1 ≤ i.natAbs ∧ i.natAbs ≤ 9223372036854775808 := by omega
    have worth : -(i.natAbs : Int) = i := by omega
    simp only [negative, decide_true, if_true, bounds, Nat.sub_self, and_self, worth]
  · have worth : (i.natAbs : Int) = i := by omega
    simp only [negative, decide_false, Bool.false_eq_true, if_false, Nat.sub_self, and_self,
      if_true, worth]

end ChatGateway

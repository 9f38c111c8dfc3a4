import ChatGateway.Http.RetryAfter
import ChatGateway.Proofs.Binary.Precision
import ChatGateway.Proofs.Json.Numerals
import Mathlib.Algebra.Order.BigOperators.Group.List
import Mathlib.Data.List.TakeWhile

/-!
# The grammar of compound delays

A compound is a row of parts, one or more, with nothing before, between or after them.  A part is
a numeral and the name of a unit.  A text is such a row in one way at most: a numeral goes on for
as long as it can, and of two names that fit the longer one counts.

The reader takes the parts for what they are, and reads nothing else.  It refuses a compound only
if a part is too long or all of them are.  Whole numbers below 10 ^ 9 are never too long, and
nothing of them is lost.

## Main definitions

* `IsNumeral`, `IsWorth` — the number of a part, and the natural number it may be.
* `IsCompound` — a text that is a row of parts.
* `parts?_flatMap`, `of_parts?` — a row is read back, and what is read was a row.
* `compound?_eq_some_iff` — what is read, and what it comes to.
* `Part.delay?_of_isWorth` — the delay of a whole number.
-/

namespace ChatGateway.Delay

/-! ## Numerals -/

/-- A text of digits and points. -/
def AreNumberChars (cs : List Char) : Prop :=
  ∀ c ∈ cs, c.isDigit = true ∨ c = '.'

instance (cs : List Char) : Decidable (AreNumberChars cs) :=
  List.decidableBAll _ cs

/-- A numeral: digits with one point among them at most, and one digit at least. -/
structure IsNumeral (cs : List Char) : Prop where
  chars : AreNumberChars cs
  one_point : cs.count '.' ≤ 1
  some_digit : ∃ c ∈ cs, c.isDigit = true

instance (cs : List Char) : Decidable (IsNumeral cs) :=
  decidable_of_iff (AreNumberChars cs ∧ cs.count '.' ≤ 1 ∧ cs.any Char.isDigit = true)
    ⟨fun ⟨chars, point, digit⟩ => ⟨chars, point, List.any_eq_true.1 digit⟩,
      fun ⟨chars, point, digit⟩ => ⟨chars, point, List.any_eq_true.2 digit⟩⟩

/-- The digits of a numeral, read as one number. -/
def numerator (cs : List Char) : Nat :=
  Nat.ofDigitChars 10 (cs.filter Char.isDigit) 0

/-- How many digits a numeral has after its point. -/
def places (cs : List Char) : Nat :=
  (cs.dropWhile (· ≠ '.')).length - 1

/-- A numeral is worth a natural number, with or without zeros after a point. -/
def IsWorth (cs : List Char) (n : Nat) : Prop :=
  numerator cs = n * 10 ^ places cs

instance (cs : List Char) (n : Nat) : Decidable (IsWorth cs n) :=
  inferInstanceAs (Decidable (_ = _))

theorem isNumberChar_iff {c : Char} : isNumberChar c = true ↔ c.isDigit = true ∨ c = '.' := by
  simp [isNumberChar]

theorem ne_point_of_isDigit {c : Char} (digit : c.isDigit = true) : c ≠ '.' := by
  rintro rfl
  cases digit

theorem not_mem_digits {ds : List Char} (digits : AreDigits ds) : '.' ∉ ds :=
  fun mem => ne_point_of_isDigit (digits _ mem) rfl

theorem numerator_digits {ds : List Char} (digits : AreDigits ds) :
    numerator ds = Nat.ofDigitChars 10 ds 0 := by
  rw [numerator, List.filter_eq_self.2 digits]

theorem places_digits {ds : List Char} (digits : AreDigits ds) : places ds = 0 := by
  have pointless : ds.dropWhile (· ≠ '.') = [] :=
    List.dropWhile_eq_nil_iff.2 fun c mem => by simpa using ne_point_of_isDigit (digits c mem)
  rw [places, pointless, List.length_nil]

/-- Digits are worth the number that they are read as. -/
theorem isWorth_digits {ds : List Char} (digits : AreDigits ds) :
    IsWorth ds (Nat.ofDigitChars 10 ds 0) := by
  rw [IsWorth, numerator_digits digits, places_digits digits, Nat.pow_zero, Nat.mul_one]

theorem numerator_point {whole fraction : List Char} (digits : AreDigits whole)
    (digits' : AreDigits fraction) :
    numerator (whole ++ '.' :: fraction) = Nat.ofDigitChars 10 (whole ++ fraction) 0 := by
  rw [numerator, List.filter_append, List.filter_eq_self.2 digits,
    List.filter_cons_of_neg (by decide), List.filter_eq_self.2 digits']

theorem places_point {whole : List Char} (digits : AreDigits whole) (fraction : List Char) :
    places (whole ++ '.' :: fraction) = fraction.length := by
  rw [places, List.dropWhile_append_of_pos fun c mem => by
    simpa using ne_point_of_isDigit (digits c mem)]
  simp

/-- A text of digits and points is a row of digits, or has one in front of its first point. -/
theorem digits_or_point {cs : List Char} (chars : AreNumberChars cs) :
    AreDigits cs ∨ ∃ whole fraction, cs = whole ++ '.' :: fraction ∧ AreDigits whole := by
  by_cases pointed : '.' ∈ cs
  · obtain ⟨whole, fraction, rfl, first⟩ := List.eq_append_cons_of_mem pointed
    refine .inr ⟨whole, fraction, rfl, fun c mem => ?_⟩
    refine (chars c (List.mem_append_left _ mem)).resolve_right ?_
    rintro rfl
    exact first mem
  · refine .inl fun c mem => (chars c mem).resolve_right ?_
    rintro rfl
    exact pointed mem

/-- Digits are a numeral. -/
theorem isNumeral_digits {ds : List Char} (digits : AreDigits ds) : IsNumeral ds ↔ ds ≠ [] := by
  constructor
  · rintro ⟨-, -, c, mem, -⟩
    exact List.ne_nil_of_mem mem
  · intro some_digits
    obtain ⟨c, mem⟩ := List.exists_mem_of_ne_nil ds some_digits
    refine ⟨fun c mem => .inl (digits c mem), ?_, c, mem, digits c mem⟩
    rw [List.count_eq_zero.2 (not_mem_digits digits)]
    exact Nat.zero_le _

/-- So are digits with a point, but not a point alone. -/
theorem isNumeral_point {whole : List Char} (digits : AreDigits whole) (fraction : List Char) :
    IsNumeral (whole ++ '.' :: fraction) ↔ AreDigits fraction ∧ whole ++ fraction ≠ [] := by
  constructor
  · rintro ⟨chars, one_point, c, mem, digit⟩
    have pointless : '.' ∉ fraction := by
      rw [List.count_append, List.count_cons_self] at one_point
      exact List.count_eq_zero.1 (by omega)
    constructor
    · intro d inside
      refine (chars d (by simp [inside])).resolve_right ?_
      rintro rfl
      exact pointless inside
    · refine List.ne_nil_of_mem (a := c) ?_
      simpa [ne_point_of_isDigit digit] using mem
  · rintro ⟨digits', some_digits⟩
    obtain ⟨c, mem⟩ := List.exists_mem_of_ne_nil _ some_digits
    refine ⟨?_, ?_, c, ?_, (List.mem_append.1 mem).elim (digits c) (digits' c)⟩
    · intro d inside
      rcases List.mem_append.1 inside with inside | inside
      · exact .inl (digits d inside)
      · rcases List.mem_cons.1 inside with rfl | inside
        · exact .inr rfl
        · exact .inl (digits' d inside)
    · rw [List.count_append, List.count_cons_self, List.count_eq_zero.2 (not_mem_digits digits),
        List.count_eq_zero.2 (not_mem_digits digits')]
    · rcases List.mem_append.1 mem with inside | inside
      · exact List.mem_append_left _ inside
      · exact List.mem_append_right _ (List.mem_cons_of_mem _ inside)

/-! ## Amounts -/

theorem amount?_digits {ds : List Char} (digits : AreDigits ds) :
    amount? ds = if ds = [] then none else
      some (.ofRatio binary64 false (numerator ds) (10 ^ places ds)) := by
  have taken : ds.takeWhile Char.isDigit = ds := List.takeWhile_eq_self_iff.2 digits
  have dropped : ds.dropWhile Char.isDigit = [] := List.dropWhile_eq_nil_iff.2 digits
  simp only [amount?, taken, dropped, digitsValue_eq, numerator_digits digits, places_digits digits]
  rfl

theorem amount?_point {whole : List Char} (digits : AreDigits whole) (fraction : List Char) :
    amount? (whole ++ '.' :: fraction) =
      if AreDigits fraction ∧ whole ++ fraction ≠ [] then
        some (.ofRatio binary64 false (numerator (whole ++ '.' :: fraction))
          (10 ^ places (whole ++ '.' :: fraction)))
      else none := by
  have stop : Char.isDigit '.' = false := rfl
  have taken : (whole ++ '.' :: fraction).takeWhile Char.isDigit = whole := by
    rw [List.takeWhile_append_of_pos digits, List.takeWhile_cons_of_neg (by simp [stop]),
      List.append_nil]
  have dropped : (whole ++ '.' :: fraction).dropWhile Char.isDigit = '.' :: fraction := by
    rw [List.dropWhile_append_of_pos digits, List.dropWhile_cons_of_neg (by simp [stop])]
  have whole_number : (fraction.all Char.isDigit && !(whole ++ fraction).isEmpty) = true ↔
      AreDigits fraction ∧ whole ++ fraction ≠ [] := by
    rw [Bool.and_eq_true, List.all_eq_true, Bool.not_eq_true', List.isEmpty_eq_false_iff]
    rfl
  simp only [amount?, taken, dropped, digitsValue_eq, places_point digits, whole_number]
  by_cases proper : AreDigits fraction ∧ whole ++ fraction ≠ []
  · rw [if_pos proper, if_pos proper, numerator_point digits proper.1]
    rfl
  · rw [if_neg proper, if_neg proper]

/-- Of the texts of digits and points, just the numerals have an amount: the double nearest to
them. -/
theorem amount?_eq_some_iff {cs : List Char} (chars : AreNumberChars cs)
    {x : Binary} : amount? cs = some x ↔
      IsNumeral cs ∧ x = .ofRatio binary64 false (numerator cs) (10 ^ places cs) := by
  rcases digits_or_point chars with digits | ⟨whole, fraction, rfl, digits⟩
  · rw [amount?_digits digits, isNumeral_digits digits, Option.ite_none_left_eq_some,
      Option.some.injEq, eq_comm (a := x)]
  · rw [amount?_point digits, isNumeral_point digits, Option.ite_none_right_eq_some,
      Option.some.injEq, eq_comm (a := x)]

/-! ## Units -/

/-- The name of a unit. -/
def TimeUnit.chars : TimeUnit → List Char
  | hour => ['h']
  | minute => ['m']
  | second => ['s']
  | millisecond => ['m', 's']

/-- The nanoseconds of a unit. -/
def TimeUnit.nanos : TimeUnit → Nat
  | hour => 3600 * Delay.second
  | minute => 60 * Delay.second
  | second => Delay.second
  | millisecond => 1000000

/-- A unit is read by its name; the minute only if it is not the beginning of a longer name. -/
theorem TimeUnit.read?_eq_some_iff {cs rest : List Char} {u : TimeUnit} :
    read? cs = some (u, rest) ↔
      cs = u.chars ++ rest ∧ (u = .minute → ∀ tail, rest ≠ 's' :: tail) := by
  constructor
  · intro read
    unfold read? at read
    split at read
    all_goals simp only [Option.some.injEq, Prod.mk.injEq, reduceCtorEq] at read
    · obtain ⟨rfl, rfl⟩ := read
      exact ⟨rfl, nofun⟩
    · obtain ⟨rfl, rfl⟩ := read
      exact ⟨rfl, nofun⟩
    · rename_i longest
      obtain ⟨rfl, rfl⟩ := read
      exact ⟨rfl, fun _ => longest⟩
    · obtain ⟨rfl, rfl⟩ := read
      exact ⟨rfl, nofun⟩
  · rintro ⟨rfl, longest⟩
    cases u with
    | hour => rfl
    | minute =>
      rw [TimeUnit.chars, List.singleton_append, read?.eq_3 rest (longest rfl)]
    | second => rfl
    | millisecond => rfl

/-- The name of a unit starts with a character that stands in no number. -/
theorem TimeUnit.exists_chars (u : TimeUnit) :
    ∃ c tail, u.chars = c :: tail ∧ isNumberChar c = false := by
  cases u with
  | hour => exact ⟨'h', [], rfl, rfl⟩
  | minute => exact ⟨'m', [], rfl, rfl⟩
  | second => exact ⟨'s', [], rfl, rfl⟩
  | millisecond => exact ⟨'m', ['s'], rfl, rfl⟩

/-! ## Parts -/

/-- The text of a part. -/
def Part.chars (p : Part) : List Char :=
  p.number ++ p.unit.chars

/-- A text is a row of parts, one or more, each of a numeral and a unit. -/
structure IsCompound (cs : List Char) (ps : List Part) : Prop where
  some_parts : ps ≠ []
  numerals : ∀ p ∈ ps, IsNumeral p.number
  spelled : cs = ps.flatMap Part.chars

/-- The part at the front of a text, and the rest. -/
def frontPart? (cs : List Char) : Option (Part × List Char) :=
  (TimeUnit.read? (cs.dropWhile isNumberChar)).map fun (unit, rest) =>
    (⟨cs.takeWhile isNumberChar, unit⟩, rest)

theorem parts?_nil : parts? [] = some [] := by
  rw [parts?, if_pos rfl]

theorem parts?_of_ne_nil {cs : List Char} (some_text : cs ≠ []) :
    parts? cs = (frontPart? cs).bind fun (p, rest) => (parts? rest).map (p :: ·) := by
  rw [parts?, if_neg some_text, frontPart?]
  split
  · rename_i read
    rw [read, Option.map_none, Option.bind_none]
  · rename_i read
    rw [read, Option.map_some, Option.bind_some]

theorem of_frontPart? {cs rest : List Char} {p : Part} (read : frontPart? cs = some (p, rest)) :
    cs = p.chars ++ rest ∧ AreNumberChars p.number := by
  obtain ⟨⟨unit, rest⟩, unit_read, same⟩ := Option.map_eq_some_iff.1 read
  cases same
  obtain ⟨named, -⟩ := TimeUnit.read?_eq_some_iff.1 unit_read
  constructor
  · rw [Part.chars, List.append_assoc, ← named, List.takeWhile_append_dropWhile]
  · intro c mem
    exact isNumberChar_iff.1 (List.mem_takeWhile_imp mem)

/-- A part is read back in front of a text that does not make its unit a longer one. -/
theorem frontPart?_chars_append {p : Part} (chars : AreNumberChars p.number)
    {rest : List Char} (apart : ∀ tail, rest ≠ 's' :: tail) :
    frontPart? (p.chars ++ rest) = some (p, rest) := by
  have number : ∀ c ∈ p.number, isNumberChar c = true := fun c mem =>
    isNumberChar_iff.2 (chars c mem)
  obtain ⟨c, tail, named, stop⟩ := p.unit.exists_chars
  have taken : (p.chars ++ rest).takeWhile isNumberChar = p.number := by
    rw [Part.chars, List.append_assoc, List.takeWhile_append_of_pos number, named,
      List.cons_append, List.takeWhile_cons_of_neg (by simp [stop]), List.append_nil]
  have dropped : (p.chars ++ rest).dropWhile isNumberChar = p.unit.chars ++ rest := by
    rw [Part.chars, List.append_assoc, List.dropWhile_append_of_pos number, named,
      List.cons_append, List.dropWhile_cons_of_neg (by simp [stop])]
  have unit_read : TimeUnit.read? (p.unit.chars ++ rest) = some (p.unit, rest) :=
    TimeUnit.read?_eq_some_iff.2 ⟨rfl, fun _ => apart⟩
  rw [frontPart?, dropped, unit_read, Option.map_some, taken]

/-- What is read was a row of parts. -/
theorem of_parts? {cs : List Char} {ps : List Part} (read : parts? cs = some ps) :
    cs = ps.flatMap Part.chars ∧ ∀ p ∈ ps, AreNumberChars p.number := by
  induction ps generalizing cs with
  | nil =>
    by_cases ended : cs = []
    · exact ⟨ended, nofun⟩
    · simp [parts?_of_ne_nil ended, Option.bind_eq_some_iff] at read
  | cons p ps ih =>
    have some_text : cs ≠ [] := by
      rintro rfl
      rw [parts?_nil] at read
      cases read
    rw [parts?_of_ne_nil some_text] at read
    obtain ⟨⟨q, rest⟩, front, others⟩ := Option.bind_eq_some_iff.1 read
    obtain ⟨qs, rest_read, same⟩ := Option.map_eq_some_iff.1 others
    cases same
    obtain ⟨spelled, chars⟩ := of_frontPart? front
    obtain ⟨spelled', chars'⟩ := ih rest_read
    exact ⟨by rw [spelled, spelled', List.flatMap_cons], List.forall_mem_cons.2 ⟨chars, chars'⟩⟩

/-- A numeral starts with a digit or a point, so a row of parts does. -/
theorem flatMap_chars_ne {ps : List Part} (numerals : ∀ p ∈ ps, IsNumeral p.number)
    (tail : List Char) : ps.flatMap Part.chars ≠ 's' :: tail := by
  cases ps with
  | nil => exact nofun
  | cons p ps =>
    intro same
    obtain ⟨chars, -, d, mem, -⟩ := numerals p List.mem_cons_self
    obtain ⟨c, number, spelled⟩ := List.exists_cons_of_ne_nil (List.ne_nil_of_mem mem)
    rw [List.flatMap_cons, Part.chars, spelled, List.cons_append, List.cons_append] at same
    have first := (List.cons.inj same).1
    have number_char := chars c (spelled ▸ List.mem_cons_self)
    rw [first] at number_char
    revert number_char
    decide

/-- A row of parts is read back. -/
theorem parts?_flatMap {ps : List Part} (numerals : ∀ p ∈ ps, IsNumeral p.number) :
    parts? (ps.flatMap Part.chars) = some ps := by
  induction ps with
  | nil => exact parts?_nil
  | cons p ps ih =>
    obtain ⟨numeral, numerals⟩ := List.forall_mem_cons.1 numerals
    obtain ⟨c, tail, named, -⟩ := p.unit.exists_chars
    have some_text : p.chars ++ ps.flatMap Part.chars ≠ [] := by
      simp [Part.chars, named]
    rw [List.flatMap_cons, parts?_of_ne_nil some_text,
      frontPart?_chars_append numeral.chars (flatMap_chars_ne numerals), Option.bind_some]
    exact congrArg (Option.map (p :: ·)) (ih numerals)

/-- A text is a row of parts in one way at most. -/
theorem IsCompound.unique {cs : List Char} {ps qs : List Part} (h : IsCompound cs ps)
    (h' : IsCompound cs qs) : ps = qs := by
  have read := parts?_flatMap h.numerals
  rw [← h.spelled, h'.spelled, parts?_flatMap h'.numerals] at read
  exact (Option.some.inj read).symm

/-! ## Delays -/

/-- The sum of delays is there if all of them are and it is not too long. -/
theorem total?_eq_some_iff {ds : List (Option Nat)} {d : Nat} :
    total? ds = some d ↔ ∃ ts : List Nat, ds = ts.map some ∧ d = ts.sum ∧ d < limit := by
  induction ds generalizing d with
  | nil =>
    constructor
    · rintro ⟨⟩
      exact ⟨[], rfl, rfl, by decide⟩
    · rintro ⟨ts, same, rfl, -⟩
      rw [List.map_eq_nil_iff.1 same.symm]
      rfl
  | cons first ds ih =>
    constructor
    · intro added
      simp only [total?] at added
      split at added
      · rename_i t rest found
        obtain ⟨ts, rfl, rfl, -⟩ := ih.1 found
        obtain ⟨room, same⟩ := Option.ite_none_right_eq_some.1 added
        cases same
        exact ⟨t :: ts, rfl, (List.sum_cons).symm, room⟩
      · cases added
    · rintro ⟨_ | ⟨t, ts⟩, same, rfl, room⟩
      · cases same
      · obtain ⟨rfl, rfl⟩ := List.cons.inj same
        rw [List.sum_cons] at room
        have found := ih.2 ⟨ts, rfl, rfl, by omega⟩
        simp only [total?, found, if_pos room, List.sum_cons]

/-- Only a numeral has a delay. -/
theorem isNumeral_of_delay? {p : Part} (chars : AreNumberChars p.number) {d : Nat}
    (delay : p.delay? = some d) : IsNumeral p.number := by
  obtain ⟨amount, read, -⟩ := Option.bind_eq_some_iff.1 delay
  exact ((amount?_eq_some_iff chars).1 read).1

/-- **What is read is a compound**, and a compound is refused only if a part of it or the whole is
too long. -/
theorem compound?_eq_some_iff {cs : List Char} {d : Nat} :
    compound? cs = some d ↔ ∃ ps, IsCompound cs ps ∧ total? (ps.map Part.delay?) = some d := by
  rw [compound?, Option.ite_none_left_eq_some]
  constructor
  · rintro ⟨some_text, summed⟩
    obtain ⟨ps, read, total⟩ := Option.bind_eq_some_iff.1 summed
    obtain ⟨spelled, chars⟩ := of_parts? read
    obtain ⟨ts, delays, -⟩ := total?_eq_some_iff.1 total
    refine ⟨ps, ⟨?_, ?_, spelled⟩, total⟩
    · rintro rfl
      exact some_text spelled
    · intro p mem
      have delay : p.delay? ∈ ts.map some := delays ▸ List.mem_map_of_mem mem
      obtain ⟨t, -, found⟩ := List.mem_map.1 delay
      exact isNumeral_of_delay? (chars p mem) found.symm
  · rintro ⟨ps, compound, total⟩
    have read := parts?_flatMap compound.numerals
    rw [← compound.spelled] at read
    refine ⟨?_, by rw [read, Option.bind_some, total]⟩
    rintro rfl
    rw [parts?_nil] at read
    exact compound.some_parts (Option.some.inj read).symm

/-! ## Whole numbers -/

/-- The amount of a whole number is the number. -/
theorem amount?_of_isWorth {cs : List Char} {n : Nat} (numeral : IsNumeral cs)
    (worth : IsWorth cs n) (small : n ≤ 2 ^ 52) : ∃ x, amount? cs = some x ∧ x.IsNat n := by
  refine ⟨_, (amount?_eq_some_iff numeral.chars).2 ⟨numeral, rfl⟩, ?_⟩
  rw [worth]
  exact Binary.isNat_ofRatio (Nat.pow_pos (by decide)) small

/-- A natural number of seconds is as many. -/
theorem ofSeconds?_of_isNat {x : Binary} {n : Nat} (whole : x.IsNat n) (held : n ≤ word64Max) :
    ofSeconds? x = some (n * second) := by
  obtain ⟨k, rfl⟩ := whole
  have pos : 0 < 2 ^ k := Nat.two_pow_pos k
  have short : n * 2 ^ k < (word64Max + 1) * 2 ^ k :=
    Nat.mul_lt_mul_of_pos_right (by omega) pos
  simp only [ofSeconds?, Binary.ratio_neg, if_pos short]
  rw [Nat.mul_right_comm, roundQuotient_mul_left _ pos]

/-- A thousandth is no double.  The product with the one nearest to it is off by less than half a
nanosecond all the same. -/
theorem ofSeconds?_milliseconds {x : Binary} {n : Nat} (whole : x.IsNat n) (small : n ≤ 10 ^ 9) :
    ofSeconds? (x.mul binary64 TimeUnit.millisecond.seconds) = some (n * 1000000) := by
  have thousandth : TimeUnit.millisecond.seconds = .finite false 4611686018427388 (-(62 : Nat)) :=
    by decide
  have below : n * 4611686018427388 ≤ 2 ^ 20 * 2 ^ 62 := by omega
  obtain ⟨m, k, product, fine, above, under⟩ := whole.mul_close (by decide) below
  have unit : 2 ^ 32 ≤ 2 ^ k := Nat.pow_le_pow_right (by decide) (by omega)
  have amount : n * 2 ^ k ≤ 10 ^ 9 * 2 ^ k := Nat.mul_le_mul_right _ small
  rw [Nat.mul_right_comm n] at above under
  have short : m < (word64Max + 1) * 2 ^ k := by
    simp only [word64Max]
    omega
  simp only [thousandth, product, ofSeconds?, Binary.ratio_neg, if_pos short, second,
    Option.some.injEq]
  refine roundQuotient_eq (Nat.two_pow_pos k) ?_ ?_
  · rw [Nat.mul_right_comm]
    omega
  · rw [Nat.mul_right_comm]
    omega

/-- A natural number of units is as many. -/
theorem ofSeconds?_mul_seconds {x : Binary} {n : Nat} (whole : x.IsNat n) (small : n ≤ 10 ^ 9)
    (u : TimeUnit) : ofSeconds? (x.mul binary64 u.seconds) = some (n * u.nanos) := by
  have by_seconds {k : Nat} (few : k ≤ 3600) :
      ofSeconds? (x.mul binary64 (.ofNat binary64 k)) = some (n * (k * second)) := by
    have product : n * k ≤ 10 ^ 9 * 3600 := Nat.mul_le_mul small few
    rw [← Nat.mul_assoc]
    refine ofSeconds?_of_isNat (whole.mul (Binary.isNat_ofNat (by omega)) ?_) ?_
    · omega
    · simp only [word64Max]
      omega
  cases u with
  | hour => exact by_seconds (Nat.le_refl _)
  | minute => exact by_seconds (by decide)
  | second =>
    have unit := by_seconds (k := 1) (by decide)
    rwa [Nat.one_mul] at unit
  | millisecond => exact ofSeconds?_milliseconds whole small

/-- The delay of a whole number is as many of its units. -/
theorem Part.delay?_of_isWorth {p : Part} {n : Nat} (numeral : IsNumeral p.number)
    (worth : IsWorth p.number n) (small : n ≤ 10 ^ 9) : p.delay? = some (n * p.unit.nanos) := by
  obtain ⟨x, read, whole⟩ := amount?_of_isWorth numeral worth (Nat.le_trans small (by decide))
  rw [delay?, read, Option.bind_some, ofSeconds?_mul_seconds whole small]

theorem TimeUnit.nanos_le (u : TimeUnit) : u.nanos ≤ hour.nanos := by
  cases u <;> decide

/-- A compound of whole numbers is the sum of as many units. -/
theorem compound?_of_isWorth {cs : List Char} {ps : List Part} (compound : IsCompound cs ps)
    (few : ps.length < 10 ^ 6) {amount : Part → Nat}
    (whole : ∀ p ∈ ps, IsWorth p.number (amount p) ∧ amount p ≤ 10 ^ 9) :
    compound? cs = some (ps.map fun p => amount p * p.unit.nanos).sum := by
  refine compound?_eq_some_iff.2 ⟨ps, compound, total?_eq_some_iff.2 ⟨_, ?_, rfl, ?_⟩⟩
  · rw [List.map_map]
    refine List.map_congr_left fun p mem => ?_
    exact Part.delay?_of_isWorth (compound.numerals p mem) (whole p mem).1 (whole p mem).2
  · have each : ∀ d ∈ ps.map fun p => amount p * p.unit.nanos,
        d ≤ 10 ^ 9 * TimeUnit.hour.nanos := by
      intro d mem
      obtain ⟨p, part, rfl⟩ := List.mem_map.1 mem
      exact Nat.mul_le_mul (whole p part).2 p.unit.nanos_le
    have sum := List.sum_le_card_nsmul _ _ each
    rw [List.length_map, Nat.nsmul_eq_mul] at sum
    calc (ps.map fun p => amount p * p.unit.nanos).sum
        ≤ ps.length * (10 ^ 9 * TimeUnit.hour.nanos) := sum
      _ ≤ 10 ^ 6 * (10 ^ 9 * TimeUnit.hour.nanos) := Nat.mul_le_mul_right _ (Nat.le_of_lt few)
      _ < limit := by decide

end ChatGateway.Delay

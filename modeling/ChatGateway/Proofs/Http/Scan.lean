import ChatGateway.Proofs.Http.Compounds
import Mathlib.Data.String.Basic

/-!
# Compound delays, byte by byte

A compound delay comes from outside, in any text, and is read from its bytes: the number at the
front is cut off behind its last byte, the unit is told by the next byte or two, and the rest is
cut off behind them.  A text is only cut between two characters, and only within its bounds.

So it is here: each turn of the scan takes one part off and adds its delay, and a cut in a wrong
place or a byte that is not there is a fault.  No text leads to one.  Each turn leaves a shorter
text, so the scan comes to an end; and it comes to what is read of the characters.

## Main definitions

* `ByteFault`, `cut`, `byteAt` — access to a text by its bytes.
* `turn`, `scan` — one turn of the scan, and all of it.
* `turn_eq`, `scan_eq` — neither has a fault, and what each of them comes to.
* `compound_scanned` — which texts are delays, and of what length.
-/

namespace ChatGateway.Delay

/-! ## Texts by their bytes -/

/-- Why a text has no byte in some place, or is not cut there. -/
inductive ByteFault where
  | pastEnd
  | insideCharacter
  deriving DecidableEq, Repr

/-- The text before a byte, and the text from there on. -/
def cut (s : String) (i : Nat) : Except ByteFault (String × String) :=
  if s.utf8ByteSize < i then .error .pastEnd
  else if String.Pos.Raw.isValid s ⟨i⟩ then
    .ok (String.Pos.Raw.extract s 0 ⟨i⟩, String.Pos.Raw.extract s ⟨i⟩ s.rawEndPos)
  else .error .insideCharacter

/-- A byte of a text. -/
def byteAt (s : String) (i : Nat) : Except ByteFault UInt8 :=
  match s.toByteArray.data[i]? with
  | some b => .ok b
  | none => .error .pastEnd

/-- A text is cut between two texts. -/
theorem cut_append (a b : String) : cut (a ++ b) a.utf8ByteSize = .ok (a, b) := by
  have within : ¬ (a ++ b).utf8ByteSize < a.utf8ByteSize := by
    rw [String.utf8ByteSize_append]
    omega
  have between : String.Pos.Raw.isValid (a ++ b) ⟨a.utf8ByteSize⟩ = true :=
    String.Pos.Raw.isValid_eq_true_iff.2
      (String.Pos.Raw.isValid_iff_exists_append.2 ⟨a, b, rfl, rfl⟩)
  have front := String.extract_of_valid [] a.toList b.toList
  have back := String.extract_of_valid a.toList b.toList []
  simp only [List.nil_append, List.append_nil, String.ofList_append, String.ofList_toList,
    String.utf8Len_toList, String.utf8Len_nil, Nat.zero_add] at front back
  rw [cut, if_neg within, if_pos between]
  have ended : (a ++ b).rawEndPos = ⟨a.utf8ByteSize + b.utf8ByteSize⟩ := by
    rw [String.Pos.Raw.ext_iff, String.byteIdx_rawEndPos, String.utf8ByteSize_append]
  rw [ended, back]
  exact congrArg (fun a => Except.ok (a, b)) front

/-- A text is cut nowhere else. -/
theorem cut_eq_ok_iff {s a b : String} {i : Nat} :
    cut s i = .ok (a, b) ↔ s = a ++ b ∧ i = a.utf8ByteSize := by
  constructor
  · intro done
    by_cases between : String.Pos.Raw.isValid s ⟨i⟩ = true
    · obtain ⟨c, d, rfl, here⟩ := String.Pos.Raw.isValid_iff_exists_append.1
        (String.Pos.Raw.isValid_eq_true_iff.1 between)
      obtain rfl : i = c.utf8ByteSize := congrArg String.Pos.Raw.byteIdx here
      rw [cut_append] at done
      cases done
      exact ⟨rfl, rfl⟩
    · rw [cut, if_neg between] at done
      split at done
      · cases done
      · cases done
  · rintro ⟨rfl, rfl⟩
    exact cut_append a b

/-- The byte at which the first character stands that is not part of a number. -/
def numberEnd? : List Char → Option Nat
  | [] => none
  | c :: cs => if isNumberChar c then (numberEnd? cs).map (· + c.utf8Size) else some 0

theorem numberEnd?_eq (cs : List Char) :
    numberEnd? cs =
      if cs.dropWhile isNumberChar = [] then none
      else some (String.utf8Len (cs.takeWhile isNumberChar)) := by
  induction cs with
  | nil => rfl
  | cons c cs ih =>
    by_cases number : isNumberChar c = true
    · rw [numberEnd?, if_pos number, ih, List.dropWhile_cons_of_pos number,
        List.takeWhile_cons_of_pos number]
      split
      · rfl
      · rfl
    · rw [numberEnd?, if_neg number, List.dropWhile_cons_of_neg number,
        List.takeWhile_cons_of_neg number, if_neg (List.cons_ne_nil c cs)]
      rfl

/-- The unit at the front of a text, told by its bytes, and how many of them are its name. -/
def unitAt (s : String) : Except ByteFault (Option (TimeUnit × Nat)) :=
  if ['m', 's'].isPrefixOf s.toList then .ok (some (.millisecond, 2))
  else
    (byteAt s 0).map fun b =>
      if b = 'h'.toUInt8 then some (.hour, 1)
      else if b = 'm'.toUInt8 then some (.minute, 1)
      else if b = 's'.toUInt8 then some (.second, 1)
      else none

/-- The first byte of a character is a byte of ASCII only if it is all of the character. -/
theorem exists_utf8EncodeChar (c : Char) :
    ∃ b tail, String.utf8EncodeChar c = b :: tail ∧
      ∀ e : Char, e.toNat < 128 → (b = e.toUInt8 ↔ c = e) := by
  have value : c.toNat = c.val.toNat := rfl
  have byte (e : Char) : e.toUInt8.toNat = e.toNat % 256 := UInt32.toNat_toUInt8 e.val
  simp only [String.utf8EncodeChar]
  -- one case for each number of bytes: from two on, the first of them is past ASCII
  split_ifs
  all_goals
    refine ⟨_, _, rfl, fun e ascii => ?_⟩
    rw [← UInt8.toNat_inj, ← Char.toNat_inj, UInt8.toNat_ofNat', byte, value]
    omega

theorem byteAt_zero (c : Char) (cs : List Char) :
    ∃ b, byteAt (String.ofList (c :: cs)) 0 = .ok b ∧
      ∀ e : Char, e.toNat < 128 → (b = e.toUInt8 ↔ c = e) := by
  obtain ⟨b, tail, encoded, told⟩ := exists_utf8EncodeChar c
  have bytes : (String.ofList (c :: cs)).toByteArray.data =
      (b :: (tail ++ cs.flatMap String.utf8EncodeChar)).toArray := by
    rw [String.toByteArray_ofList, List.utf8Encode, List.data_toByteArray, List.flatMap_cons,
      encoded, List.cons_append]
  exact ⟨b, by simp only [byteAt, bytes, List.getElem?_toArray, List.getElem?_cons_zero], told⟩

/-- The bytes tell the unit that is read of the characters, and how long its name is. -/
theorem unitAt_eq (c : Char) (cs : List Char) :
    unitAt (String.ofList (c :: cs)) =
      .ok ((TimeUnit.read? (c :: cs)).map fun (u, _) => (u, String.utf8Len u.chars)) := by
  obtain ⟨b, first, told⟩ := byteAt_zero c cs
  have hour := told 'h' (by decide)
  have minute := told 'm' (by decide)
  have second := told 's' (by decide)
  simp only [unitAt, String.toList_ofList, first, hour, minute, second, Except.map]
  by_cases longer : ∃ rest, c :: cs = 'm' :: 's' :: rest
  · obtain ⟨rest, same⟩ := longer
    cases same
    rfl
  have shorter : ['m', 's'].isPrefixOf (c :: cs) = false := by
    refine Bool.eq_false_iff.2 fun front => ?_
    obtain ⟨rest, same⟩ := List.isPrefixOf_iff_prefix.1 front
    exact longer ⟨rest, same.symm⟩
  rw [shorter]
  by_cases h : c = 'h'
  · subst h
    rfl
  by_cases m : c = 'm'
  · subst m
    rw [TimeUnit.read?.eq_3 cs fun rest same => longer ⟨rest, by rw [same]⟩]
    rfl
  by_cases s : c = 's'
  · subst s
    rfl
  have unread : TimeUnit.read? (c :: cs) = none :=
    TimeUnit.read?.eq_5 _ (fun rest same => longer ⟨rest, same⟩)
      (fun _ same => h (List.cons.inj same).1) (fun _ same => m (List.cons.inj same).1)
      (fun _ same => s (List.cons.inj same).1)
  rw [unread, if_neg Bool.false_ne_true, if_neg h, if_neg m, if_neg s]
  rfl

/-! ## One turn -/

/-- The sum of two delays, if it is not too long. -/
def add? (total d : Nat) : Option Nat :=
  if total + d < limit then some (total + d) else none

/-- The unit of an amount is taken off, and as much is added. -/
def takeUnit (total : Nat) (amount : Binary) (rest : String) :
    Except ByteFault (Option (Nat × String)) := do
  let some (unit, length) ← unitAt rest | return none
  let some total := (ofSeconds? (amount.mul binary64 unit.seconds)).bind (add? total) | return none
  let (_, rest) ← cut rest length
  return some (total, rest)

/-- One turn of the scan: the part at the front is taken off, and its delay is added. -/
def turn (total : Nat) (rest : String) : Except ByteFault (Option (Nat × String)) := do
  let some stop := (numberEnd? rest.toList).filter (0 < ·) | return none
  let (number, rest) ← cut rest stop
  let some amount := amount? number.toList | return none
  takeUnit total amount rest

theorem takeUnit_eq (total : Nat) (amount : Binary) (c : Char) (cs : List Char) :
    takeUnit total amount (String.ofList (c :: cs)) =
      .ok ((TimeUnit.read? (c :: cs)).bind fun (u, rest) =>
        ((ofSeconds? (amount.mul binary64 u.seconds)).bind (add? total)).map fun total =>
          (total, String.ofList rest)) := by
  rw [takeUnit, unitAt_eq]
  cases read : TimeUnit.read? (c :: cs) with
  | none => rfl
  | some found =>
    obtain ⟨u, rest⟩ := found
    obtain ⟨named, -⟩ := TimeUnit.read?_eq_some_iff.1 read
    have cut_off := cut_append (String.ofList u.chars) (String.ofList rest)
    rw [← String.ofList_append, ← named, String.utf8ByteSize_ofList] at cut_off
    simp only [Option.map_some, Option.bind_some, bind, Except.bind]
    cases (ofSeconds? (amount.mul binary64 u.seconds)).bind (add? total) with
    | none => rfl
    | some total =>
      simp only [cut_off]
      rfl

/-- A turn has no fault, and takes off the part that is read at the front. -/
theorem turn_eq (total : Nat) (cs : List Char) :
    turn total (String.ofList cs) =
      .ok ((frontPart? cs).bind fun (p, rest) =>
        (p.delay?.bind (add? total)).map fun total => (total, String.ofList rest)) := by
  have whole := List.takeWhile_append_dropWhile (p := isNumberChar) (l := cs)
  rw [turn, String.toList_ofList, numberEnd?_eq, frontPart?]
  cases behind : cs.dropWhile isNumberChar with
  | nil => rfl
  | cons c tail =>
    rw [behind] at whole
    have cut_off :=
      cut_append (String.ofList (cs.takeWhile isNumberChar)) (String.ofList (c :: tail))
    rw [← String.ofList_append, whole, String.utf8ByteSize_ofList] at cut_off
    rw [if_neg (List.cons_ne_nil c tail)]
    generalize cs.takeWhile isNumberChar = number at *
    cases number with
    | nil =>
      -- the turn looks for no unit, while a part without a number is read and has no delay
      cases TimeUnit.read? (c :: tail) with
      | none => rfl
      | some found => rfl
    | cons d number =>
      have some_bytes : 0 < String.utf8Len (d :: number) := by
        rw [String.utf8Len_cons]
        exact Nat.add_pos_right _ d.utf8Size_pos
      rw [Option.filter_some, if_pos (decide_eq_true some_bytes)]
      simp only [cut_off, bind, Except.bind, String.toList_ofList]
      cases amount : amount? (d :: number) with
      | none =>
        cases TimeUnit.read? (c :: tail) with
        | none => rfl
        | some found => simp [Part.delay?, amount, pure, Except.pure]
      | some x =>
        simp only [takeUnit_eq]
        cases TimeUnit.read? (c :: tail) with
        | none => rfl
        | some found => simp [Part.delay?, amount]

/-! ## The scan -/

/-- What a turn leaves is shorter: at least the name of a unit is taken off. -/
theorem shorter_of_turn {total total' : Nat} {rest rest' : String}
    (turned : turn total rest = .ok (some (total', rest'))) :
    rest'.utf8ByteSize < rest.utf8ByteSize := by
  rw [← String.ofList_toList (s := rest), turn_eq] at turned
  obtain ⟨⟨p, left⟩, front, added⟩ := Option.bind_eq_some_iff.1 (Except.ok.inj turned)
  obtain ⟨_, -, same⟩ := Option.map_eq_some_iff.1 added
  cases same
  obtain ⟨c, tail, named, -⟩ := p.unit.exists_chars
  have size := congrArg String.utf8Len (of_frontPart? front).1
  rw [Part.chars, named, String.utf8Len_append, String.utf8Len_append, String.utf8Len_cons,
    String.utf8Len_toList] at size
  have := c.utf8Size_pos
  rw [String.utf8ByteSize_ofList]
  omega

/-- Turn after turn, until nothing is left. -/
def scanFrom (total : Nat) (rest : String) : Except ByteFault (Option Nat) :=
  if rest = "" then .ok (some total)
  else
    match _h : turn total rest with
    | .error fault => .error fault
    | .ok none => .ok none
    | .ok (some (total, rest)) => scanFrom total rest
termination_by rest.utf8ByteSize
decreasing_by exact shorter_of_turn _h

/-- The delay of a compound. -/
def scan (value : String) : Except ByteFault (Option Nat) :=
  if value = "" then .ok none else scanFrom 0 value

theorem add?_eq_some_iff {total d sum : Nat} :
    add? total d = some sum ↔ sum = total + d ∧ sum < limit := by
  rw [add?, Option.ite_none_right_eq_some, Option.some.injEq]
  omega

theorem add?_assoc (a b c : Nat) :
    (add? b c).bind (add? a) = (add? a b).bind fun total => add? total c := by
  refine Option.ext fun sum => ?_
  simp only [Option.bind_eq_some_iff, add?_eq_some_iff]
  constructor
  · rintro ⟨_, ⟨rfl, -⟩, rfl, short⟩
    exact ⟨_, ⟨rfl, by omega⟩, by omega, short⟩
  · rintro ⟨_, ⟨rfl, -⟩, rfl, short⟩
    exact ⟨_, ⟨rfl, by omega⟩, by omega, short⟩

/-- Delays may be added from the front or from the back. -/
theorem bind_total?_cons (total : Nat) (first : Option Nat) (ds : List (Option Nat)) :
    (total? (first :: ds)).bind (add? total) =
      (first.bind (add? total)).bind fun total => (total? ds).bind (add? total) := by
  cases first with
  | none => rfl
  | some d =>
    cases behind : total? ds with
    | none => simp [total?, behind]
    | some rest =>
      have sum : total? (some d :: ds) = add? d rest := by simp only [total?, behind, add?]
      rw [sum]
      exact add?_assoc total d rest

theorem scanFrom_of_ne {rest : String} (some_text : rest ≠ "") (total : Nat) :
    scanFrom total rest =
      (turn total rest).bind fun
        | none => .ok none
        | some (total, rest) => scanFrom total rest := by
  rw [scanFrom, if_neg some_text]
  split
  · rename_i turned
    rw [turned]
    rfl
  · rename_i turned
    rw [turned]
    rfl
  · rename_i turned
    rw [turned]
    rfl

/-- The scan has no fault, and adds to the total what is read of the characters. -/
theorem scanFrom_eq {total : Nat} (short : total < limit) (cs : List Char) :
    scanFrom total (String.ofList cs) =
      .ok ((parts? cs).bind fun ps => (total? (ps.map Part.delay?)).bind (add? total)) := by
  induction cs using parts?.induct generalizing total with
  | case1 =>
    rw [scanFrom, if_pos rfl, parts?_nil]
    simp [total?, add?, short]
  | case2 cs some_text unread =>
    have none_ahead : frontPart? cs = none := by rw [frontPart?, unread, Option.map_none]
    rw [scanFrom_of_ne (by simpa using some_text), turn_eq, parts?_of_ne_nil some_text, none_ahead]
    rfl
  | case3 cs some_text unit rest read ih =>
    have front : frontPart? cs = some (⟨cs.takeWhile isNumberChar, unit⟩, rest) := by
      rw [frontPart?, read, Option.map_some]
    rw [scanFrom_of_ne (by simpa using some_text), turn_eq, parts?_of_ne_nil some_text, front]
    generalize (⟨cs.takeWhile isNumberChar, unit⟩ : Part) = p
    simp only [Option.bind_some, Option.bind_map, Function.comp_def, List.map_cons,
      bind_total?_cons]
    cases added : p.delay?.bind (add? total) with
    | none =>
      simp only [Option.bind_none, Option.bind_fun_none]
      rfl
    | some sum =>
      obtain ⟨d, -, summed⟩ := Option.bind_eq_some_iff.1 added
      exact ih (add?_eq_some_iff.1 summed).2

theorem bind_add?_zero (ds : List (Option Nat)) : (total? ds).bind (add? 0) = total? ds := by
  cases found : total? ds with
  | none => rfl
  | some d =>
    obtain ⟨_, -, -, short⟩ := total?_eq_some_iff.1 found
    exact add?_eq_some_iff.2 ⟨(Nat.zero_add d).symm, short⟩

/-- The scan of a text has no fault, and comes to what is read of its characters. -/
theorem scan_eq (value : String) : scan value = .ok (compound? value.toList) := by
  by_cases ended : value = ""
  · subst ended
    rfl
  · have some_text : value.toList ≠ [] := by simpa using ended
    rw [scan, if_neg ended, compound?, if_neg some_text]
    have scanned := scanFrom_eq (show 0 < limit by decide) value.toList
    simpa only [String.ofList_toList, bind_add?_zero] using scanned

/-- **Every text is scanned without a fault, and its delay is that of a compound.**  The bytes
come to what is read of the characters; it is a delay just if the text is a compound, in the one
way in which it can be, and the delays of its parts are there and not too long together.  Fewer
than a million parts of whole numbers below 10 ^ 9 never are: they come to the exact sum of as
many of their units, and so do parts of digits in particular. -/
theorem compound_scanned (value : String) :
    scan value = .ok (compound? value.toList) ∧
    (∀ d, scan value = .ok (some d) ↔
      ∃ ps, IsCompound value.toList ps ∧ total? (ps.map Part.delay?) = some d) ∧
    (∀ ps qs, IsCompound value.toList ps → IsCompound value.toList qs → ps = qs) ∧
    (∀ ps, IsCompound value.toList ps → ps.length < 10 ^ 6 → ∀ amount : Part → Nat,
      (∀ p ∈ ps, IsWorth p.number (amount p) ∧ amount p < 10 ^ 9) →
        scan value = .ok (some (ps.map fun p => amount p * p.unit.nanos).sum)) ∧
    ∀ ps, IsCompound value.toList ps → ps.length < 10 ^ 6 →
      (∀ p ∈ ps, AreDigits p.number ∧ Nat.ofDigitChars 10 p.number 0 < 10 ^ 9) →
        scan value =
          .ok (some (ps.map fun p => Nat.ofDigitChars 10 p.number 0 * p.unit.nanos).sum) := by
  have whole_numbers (ps : List Part) (compound : IsCompound value.toList ps)
      (few : ps.length < 10 ^ 6) (amount : Part → Nat)
      (whole : ∀ p ∈ ps, IsWorth p.number (amount p) ∧ amount p < 10 ^ 9) :
      scan value = .ok (some (ps.map fun p => amount p * p.unit.nanos).sum) := by
    rw [scan_eq, compound?_of_isWorth compound few fun p mem =>
      ⟨(whole p mem).1, Nat.le_of_lt (whole p mem).2⟩]
  refine ⟨scan_eq value, fun d => ?_, fun ps qs => IsCompound.unique, whole_numbers, ?_⟩
  · rw [scan_eq, Except.ok.injEq, compound?_eq_some_iff]
  · intro ps compound few digits
    exact whole_numbers ps compound few _ fun p mem =>
      ⟨isWorth_digits (digits p mem).1, (digits p mem).2⟩

/-- The parts of a compound with each unit, and a number with a point. -/
def mixedParts : List Part :=
  [⟨['1'], .hour⟩, ⟨['1', '5'], .minute⟩, ⟨['2', '.', '0'], .second⟩,
    ⟨['2', '5', '0'], .millisecond⟩]

/-- One hour, fifteen minutes, two seconds and a quarter of one. -/
theorem compound_scanned_mixed :
    IsCompound "1h15m2.0s250ms".toList mixedParts ∧
      scan "1h15m2.0s250ms" = .ok (some 4502250000000) := by
  have compound : IsCompound "1h15m2.0s250ms".toList mixedParts :=
    ⟨by decide, by decide, by decide⟩
  refine ⟨compound, ?_⟩
  exact (compound_scanned "1h15m2.0s250ms").2.2.2.1 mixedParts compound (by decide)
    (fun p => numerator p.number / 10 ^ places p.number) (by decide)

end ChatGateway.Delay

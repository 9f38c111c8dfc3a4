import ChatGateway.Numeral

/-!
# The words of a JSON text

A text is cut into tokens from the left.  Cutting never fails: where the text
leaves the grammar of tokens it ends with one `junk` token, and whoever reads
the tokens meets it only after everything that stood before it.

A string whose escapes name half a surrogate pair is a token too, but one
without a text: it can be passed over, but not read.

## Main definitions

* `Token` — the tokens.
* `Numeral.read?` — the numeral at the front of a text.
* `readString?` — the string at the front of a text, after its opening quote.
* `tokens` — the tokens of a text.
-/

namespace ChatGateway

/-- A word of a JSON text. -/
inductive Token where
  | openBracket
  | closeBracket
  | openBrace
  | closeBrace
  | comma
  | colon
  | null
  | bool (b : Bool)
  | number (n : Numeral)
  /-- A string, or `none` for one that names half a surrogate pair. -/
  | text (s : Option String)
  /-- The text leaves the grammar here. -/
  | junk
  deriving DecidableEq, Repr

/-! ## Numerals -/

/-- Whether a row of digits may stand before the point: some digits, and no zero
in front of others. -/
def isWhole : List Char → Bool
  | [] => false
  | ['0'] => true
  | '0' :: _ => false
  | _ => true

/-- The digits at the front of a text, and the rest. -/
def spanDigits (s : List Char) : List Char × List Char :=
  (s.takeWhile Char.isDigit, s.dropWhile Char.isDigit)

/-- The fraction at the front of a text: a point needs a digit after it. -/
def readFraction? : List Char → Option (List Char × List Char)
  | '.' :: r =>
    let (ds, rest) := spanDigits r
    if ds = [] then none else some (ds, rest)
  | s => some ([], s)

/-- The digits of an exponent, of which there must be one. -/
def readPower? (below : Bool) (s : List Char) : Option (Option (Bool × List Char) × List Char) :=
  let (ds, rest) := spanDigits s
  if ds = [] then none else some (some (below, ds), rest)

/-- The exponent at the front of a text. -/
def readExponent? : List Char → Option (Option (Bool × List Char) × List Char)
  | c :: r =>
    if c = 'e' ∨ c = 'E' then
      match r with
      | '+' :: r' => readPower? false r'
      | '-' :: r' => readPower? true r'
      | _ => readPower? false r
    else some (none, c :: r)
  | [] => some (none, [])

/-- Whether a minus sign stands at the front of a text, and what follows it. -/
def readMinus : List Char → Bool × List Char
  | '-' :: r => (true, r)
  | s => (false, s)

/-- The numeral at the front of a text, and the rest. -/
def Numeral.read? (s : List Char) : Option (Numeral × List Char) :=
  let (negative, s) := readMinus s
  let (whole, s) := spanDigits s
  if isWhole whole then
    match readFraction? s with
    | none => none
    | some (fraction, s) =>
      match readExponent? s with
      | none => none
      | some (exponent, s) => some (⟨negative, whole, fraction, exponent⟩, s)
  else none

/-! ## Strings -/

/-- One piece of a string: a character, or a number given after a backslash. -/
inductive Unit16 where
  | char (c : Char)
  | code (n : Nat)
  deriving DecidableEq, Repr

/-- The worth of four hexadecimal digits. -/
def hexValue4? (a b c d : Char) : Option Nat :=
  match hexValue? a, hexValue? b, hexValue? c, hexValue? d with
  | some a, some b, some c, some d => some (((a * 16 + b) * 16 + c) * 16 + d)
  | _, _, _, _ => none

/-- The character that a backslash and a letter stand for. -/
def unescape? (c : Char) : Option Char :=
  if c = '"' ∨ c = '\\' ∨ c = '/' then some c
  else if c = 'b' then some '\x08'
  else if c = 'f' then some '\x0c'
  else if c = 'n' then some '\n'
  else if c = 'r' then some '\r'
  else if c = 't' then some '\t'
  else none

/-- The pieces of a string up to its closing quote, and the rest of the text.
Controls must be escaped. -/
def readUnits? : List Char → Option (List Unit16 × List Char)
  | [] => none
  | '"' :: rest => some ([], rest)
  | '\\' :: 'u' :: a :: b :: c :: d :: rest =>
    match hexValue4? a b c d, readUnits? rest with
    | some n, some (us, rest) => some (.code n :: us, rest)
    | _, _ => none
  | '\\' :: c :: rest =>
    match unescape? c, readUnits? rest with
    | some c, some (us, rest) => some (.char c :: us, rest)
    | _, _ => none
  | c :: rest =>
    if c.toNat < 0x20 then none
    else
      match readUnits? rest with
      | some (us, rest) => some (.char c :: us, rest)
      | none => none

/-- Whether a number is the first half of a surrogate pair. -/
def isLeading (n : Nat) : Bool := 0xD800 ≤ n && n ≤ 0xDBFF

/-- Whether a number is the second half of a surrogate pair. -/
def isTrailing (n : Nat) : Bool := 0xDC00 ≤ n && n ≤ 0xDFFF

/-- The characters that pieces stand for.  The two halves of a pair must stand
side by side; a half alone stands for nothing. -/
def joinUnits? : List Unit16 → Option (List Char)
  | [] => some []
  | .char c :: rest => (joinUnits? rest).map (c :: ·)
  | .code n :: .code m :: rest =>
    if isLeading n then
      if isTrailing m then
        (joinUnits? rest).map (Char.ofNat (0x10000 + (n - 0xD800) * 0x400 + (m - 0xDC00)) :: ·)
      else none
    else if isTrailing n then none
    else (joinUnits? (.code m :: rest)).map (Char.ofNat n :: ·)
  | .code n :: rest =>
    if isLeading n || isTrailing n then none
    else (joinUnits? rest).map (Char.ofNat n :: ·)

/-- The string at the front of a text, after its opening quote, and the rest. -/
def readString? (s : List Char) : Option (Option String × List Char) :=
  (readUnits? s).map fun p => ((joinUnits? p.1).map String.ofList, p.2)

/-! ## Progress -/

theorem length_spanDigits (s : List Char) : (spanDigits s).2.length ≤ s.length :=
  (List.dropWhile_sublist _).length_le

theorem length_spanDigits_lt {s : List Char} (h : (spanDigits s).1 ≠ []) :
    (spanDigits s).2.length < s.length := by
  cases s with
  | nil => exact absurd rfl h
  | cons c r =>
    simp only [spanDigits, List.takeWhile_cons, List.dropWhile_cons] at h ⊢
    split
    · exact Nat.lt_succ_of_le (length_spanDigits r)
    · rename_i hc
      simp [hc] at h

theorem length_readFraction? {s : List Char} {p : List Char × List Char}
    (h : readFraction? s = some p) : p.2.length ≤ s.length := by
  unfold readFraction? at h
  split at h
  · simp only at h
    split at h
    · cases h
    · cases h
      exact Nat.le_succ_of_le (length_spanDigits _)
  · cases h; exact Nat.le_refl _

theorem length_readPower? {below : Bool} {s : List Char}
    {p : Option (Bool × List Char) × List Char} (h : readPower? below s = some p) :
    p.2.length ≤ s.length := by
  simp only [readPower?] at h
  split at h
  · cases h
  · cases h; exact length_spanDigits _

theorem length_readExponent? {s : List Char} {p : Option (Bool × List Char) × List Char}
    (h : readExponent? s = some p) : p.2.length ≤ s.length := by
  unfold readExponent? at h
  split at h
  · split at h
    · split at h
      · exact Nat.le_trans (length_readPower? h) (by simp; omega)
      · exact Nat.le_trans (length_readPower? h) (by simp; omega)
      · exact Nat.le_trans (length_readPower? h) (by simp)
    · cases h; exact Nat.le_refl _
  · cases h; exact Nat.le_refl _

theorem length_readMinus (s : List Char) : (readMinus s).2.length ≤ s.length := by
  unfold readMinus
  split
  · exact Nat.le_succ _
  · exact Nat.le_refl _

/-- A numeral takes at least one character off the text. -/
theorem length_read? {s : List Char} {p : Numeral × List Char} (h : Numeral.read? s = some p) :
    p.2.length < s.length := by
  have hle := length_readMinus s
  simp only [Numeral.read?] at h
  split at h
  · rename_i hw
    have hne : (spanDigits (readMinus s).2).1 ≠ [] := by
      intro hnil
      simp [hnil, isWhole] at hw
    have hlt := length_spanDigits_lt hne
    split at h
    · cases h
    · rename_i f hf
      have h1 := length_readFraction? hf
      split at h
      · cases h
      · rename_i e he
        have h2 := length_readExponent? he
        cases h
        simp only at *
        omega
  · cases h

theorem length_readUnits? {s : List Char} {p : List Unit16 × List Char}
    (h : readUnits? s = some p) : p.2.length < s.length := by
  fun_induction readUnits? s generalizing p with
  | case1 => cases h
  | case2 => cases h; simp
  | case3 =>
    rename_i ih
    cases h
    have := ih ‹readUnits? _ = some _›
    simp only [List.length_cons] at *
    omega
  | case4 => cases h
  | case5 =>
    rename_i ih
    cases h
    have := ih ‹readUnits? _ = some _›
    simp only [List.length_cons] at *
    omega
  | case6 => cases h
  | case7 => cases h
  | case8 =>
    rename_i ih
    cases h
    have := ih ‹readUnits? _ = some _›
    simp only [List.length_cons] at *
    omega
  | case9 => cases h

/-- A string takes at least its closing quote off the text. -/
theorem length_readString? {s : List Char} {p : Option String × List Char}
    (h : readString? s = some p) : p.2.length < s.length := by
  unfold readString? at h
  obtain ⟨q, hq, rfl⟩ := Option.map_eq_some_iff.1 h
  exact length_readUnits? hq

/-! ## Tokens -/

/-- The characters that may stand between tokens. -/
def isBlank (c : Char) : Bool :=
  c == ' ' || c == '\n' || c == '\t' || c == '\r'

/-- A token of one character. -/
def punctuation? (c : Char) : Option Token :=
  if c = '[' then some .openBracket
  else if c = ']' then some .closeBracket
  else if c = '\x7b' then some .openBrace
  else if c = '\x7d' then some .closeBrace
  else if c = ',' then some .comma
  else if c = ':' then some .colon
  else none

/-- The tokens of a text. -/
def tokens (s : List Char) : List Token :=
  match s with
  | [] => []
  | c :: rest =>
    if isBlank c then tokens rest
    else
      match punctuation? c with
      | some t => t :: tokens rest
      | none =>
        if c = '"' then
          match _h : readString? rest with
          | some p => .text p.1 :: tokens p.2
          | none => [.junk]
        else
          match c, rest with
          | 'n', 'u' :: 'l' :: 'l' :: rest => .null :: tokens rest
          | 't', 'r' :: 'u' :: 'e' :: rest => .bool true :: tokens rest
          | 'f', 'a' :: 'l' :: 's' :: 'e' :: rest => .bool false :: tokens rest
          | c, rest =>
            match _h : Numeral.read? (c :: rest) with
            | some p => .number p.1 :: tokens p.2
            | none => [.junk]
termination_by s.length
decreasing_by all_goals grind [→ length_readString?, → length_read?]

end ChatGateway

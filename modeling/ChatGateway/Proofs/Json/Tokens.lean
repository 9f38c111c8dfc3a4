import ChatGateway.Json.Value
import ChatGateway.Proofs.Json.Numerals

/-!
# Written values, token by token

A value is written as a row of tokens, and its text is cut into exactly these tokens.
Strings are the hard part: each character is escaped in its own way, and the reader has to
find the same character and the same end.

## Main definitions

* `Json.Proper` — values whose numerals follow the grammar.
* `Json.tokens` — the tokens that a value is written as.
* `readString?_stringChars` — a string is read back.
* `tokens_chars` — a text is cut into the tokens of its value.
-/

namespace ChatGateway

/-! ## Strings -/

/-- The piece that an escaped character is read as: controls without a letter of their own
are given by number. -/
def unitOf (c : Char) : Unit16 :=
  if c.toNat < 0x20 ∧ c ≠ '\x08' ∧ c ≠ '\x0c' ∧ c ≠ '\n' ∧ c ≠ '\r' ∧ c ≠ '\t' then
    .code c.toNat
  else .char c

theorem hexValue?_hexDigit (n : Nat) : hexValue? (Json.hexDigit n) = some (n % 16) := by
  have digits : ∀ d : Fin 16, hexValue? (Nat.digitChar d) = some d.val := by decide
  exact digits ⟨n % 16, Nat.mod_lt n (by decide)⟩

/-- The digits of a control are read as its number. -/
theorem hexValue4?_control {n : Nat} (h : n < 0x20) :
    hexValue4? '0' '0' (Json.hexDigit (n / 16)) (Json.hexDigit n) = some n := by
  have zero : hexValue? '0' = some 0 := rfl
  have worth : ((0 * 16 + 0) * 16 + n / 16 % 16) * 16 + n % 16 = n := by omega
  simp only [hexValue4?, zero, hexValue?_hexDigit, worth]

/-- A character that stands for itself is read as itself. -/
theorem readUnits?_plain {c : Char} (quote : c ≠ '"') (backslash : c ≠ '\\')
    (seen : ¬ c.toNat < 0x20) (rest : List Char) :
    readUnits? (c :: rest) = (readUnits? rest).map fun p => (.char c :: p.1, p.2) := by
  rw [readUnits?.eq_def]
  split
  · contradiction
  · rename_i same
    exact absurd (List.cons.inj same).1 quote
  · rename_i same
    exact absurd (List.cons.inj same).1 backslash
  · rename_i same
    exact absurd (List.cons.inj same).1 backslash
  · rename_i same
    cases same
    rw [if_neg seen]
    cases readUnits? rest <;> rfl

/-- A backslash and a letter are read as the character that they stand for. -/
theorem readUnits?_letter {l c : Char} (stands : unescape? l = some c) (rest : List Char) :
    readUnits? ('\\' :: l :: rest) = (readUnits? rest).map fun p => (.char c :: p.1, p.2) := by
  rw [readUnits?, stands]
  · cases readUnits? rest <;> rfl
  · rintro a b c d tail rfl
    cases stands

/-- An escaped character is read as one piece. -/
theorem readUnits?_escapeChar (c : Char) (rest : List Char) :
    readUnits? (Json.escapeChar c ++ rest) =
      (readUnits? rest).map fun p => (unitOf c :: p.1, p.2) := by
  unfold Json.escapeChar
  split
  case isTrue quote => subst quote; exact readUnits?_letter rfl rest
  split
  case isTrue backslash => subst backslash; exact readUnits?_letter rfl rest
  split
  case isTrue backspace => subst backspace; exact readUnits?_letter rfl rest
  split
  case isTrue feed => subst feed; exact readUnits?_letter rfl rest
  split
  case isTrue newline => subst newline; exact readUnits?_letter rfl rest
  split
  case isTrue carriage => subst carriage; exact readUnits?_letter rfl rest
  split
  case isTrue tab => subst tab; exact readUnits?_letter rfl rest
  split
  case isTrue control =>
    have piece : unitOf c = .code c.toNat := if_pos ⟨control, by assumption, by assumption,
      by assumption, by assumption, by assumption⟩
    simp only [List.cons_append, List.nil_append, readUnits?, hexValue4?_control control, piece]
    cases readUnits? rest <;> rfl
  case isFalse seen =>
    have piece : unitOf c = .char c := if_neg fun h => seen h.1
    rw [List.singleton_append, piece]
    exact readUnits?_plain (by assumption) (by assumption) seen rest

theorem readUnits?_escaped (cs rest : List Char) :
    readUnits? (cs.flatMap Json.escapeChar ++ '"' :: rest) = some (cs.map unitOf, rest) := by
  induction cs with
  | nil => rfl
  | cons c cs ih =>
    rw [List.flatMap_cons, List.append_assoc, readUnits?_escapeChar, ih]
    rfl

/-- A control is no half of a surrogate pair. -/
theorem joinUnits?_code {n : Nat} (h : n < 0x20) (rest : List Unit16) :
    joinUnits? (.code n :: rest) = (joinUnits? rest).map (Char.ofNat n :: ·) := by
  have leading : isLeading n = false := by
    simp only [isLeading, Bool.and_eq_false_iff, decide_eq_false_iff_not]
    omega
  have trailing : isTrailing n = false := by
    simp only [isTrailing, Bool.and_eq_false_iff, decide_eq_false_iff_not]
    omega
  rw [joinUnits?.eq_def]
  split
  · contradiction
  · rename_i same
    cases same
  · rename_i same
    cases same
    simp [leading, trailing]
  · rename_i same
    cases same
    simp [leading, trailing]

theorem joinUnits?_unitOf (c : Char) (rest : List Unit16) :
    joinUnits? (unitOf c :: rest) = (joinUnits? rest).map (c :: ·) := by
  unfold unitOf
  split
  case isTrue control => rw [joinUnits?_code control.1, Char.ofNat_toNat]
  case isFalse => rw [joinUnits?]

theorem joinUnits?_units (cs : List Char) : joinUnits? (cs.map unitOf) = some cs := by
  induction cs with
  | nil => rfl
  | cons c cs ih =>
    rw [List.map_cons, joinUnits?_unitOf, ih]
    rfl

/-- **A string is read back** after its opening quote, and what follows its closing quote is
left. -/
theorem readString?_stringChars (s : String) (rest : List Char) :
    readString? (s.toList.flatMap Json.escapeChar ++ '"' :: rest) = some (some s, rest) := by
  simp only [readString?, readUnits?_escaped, Option.map_some, joinUnits?_units,
    String.ofList_toList]

/-! ## Cutting a text -/

section Cutting

variable {c : Char} {rest : List Char}

theorem tokens_punctuation {t : Token} (stands : punctuation? c = some t) :
    tokens (c :: rest) = t :: tokens rest := by
  have seen : isBlank c = false := by
    rw [Bool.eq_false_iff]
    intro blank
    simp only [isBlank, Bool.or_eq_true, beq_iff_eq] at blank
    rcases blank with ((rfl | rfl) | rfl) | rfl <;> cases stands
  rw [tokens.eq_def]
  simp [seen, stands]

theorem tokens_string {p : Option String × List Char} (read : readString? rest = some p) :
    tokens ('"' :: rest) = .text p.1 :: tokens p.2 := by
  have seen : isBlank '"' = false := rfl
  have other : punctuation? '"' = none := rfl
  rw [tokens.eq_def]
  simp only [seen, other, Bool.false_eq_true, if_false, if_true]
  split <;> simp_all

theorem tokens_null (rest : List Char) :
    tokens ('n' :: 'u' :: 'l' :: 'l' :: rest) = .null :: tokens rest := by
  rw [tokens.eq_def]
  rfl

theorem tokens_true (rest : List Char) :
    tokens ('t' :: 'r' :: 'u' :: 'e' :: rest) = .bool true :: tokens rest := by
  rw [tokens.eq_def]
  rfl

theorem tokens_false (rest : List Char) :
    tokens ('f' :: 'a' :: 'l' :: 's' :: 'e' :: rest) = .bool false :: tokens rest := by
  rw [tokens.eq_def]
  rfl

/-- The characters that a numeral may begin with. -/
def beginsNumeral (c : Char) : Bool :=
  c.isDigit || c == '-'

theorem tokens_number {p : Numeral × List Char} (begins : beginsNumeral c = true)
    (read : Numeral.read? (c :: rest) = some p) :
    tokens (c :: rest) = .number p.1 :: tokens p.2 := by
  -- a digit or a minus sign is nothing else that a token begins with
  have other : ∀ d, beginsNumeral d = false → c ≠ d := by
    rintro d no rfl
    rw [begins] at no
    cases no
  have seen : isBlank c = false := by
    simp [isBlank, other ' ' rfl, other '\n' rfl, other '\t' rfl, other '\r' rfl]
  have plain : punctuation? c = none := by
    simp [punctuation?, other '[' rfl, other ']' rfl, other '\x7b' rfl, other '\x7d' rfl,
      other ',' rfl, other ':' rfl]
  rw [tokens.eq_def]
  simp only [seen, plain, Bool.false_eq_true, if_false, if_neg (other '"' rfl)]
  split
  · exact absurd rfl (other 'n' rfl)
  · exact absurd rfl (other 't' rfl)
  · exact absurd rfl (other 'f' rfl)
  · split <;> simp_all

end Cutting

/-! ## The tokens of a value -/

namespace Json

mutual

/-- Every numeral in a value follows the grammar. -/
def Proper : Json → Prop
  | .number n => n.Proper
  | .array items => AreProper items
  | .object members => MembersProper members
  | _ => True

/-- Every numeral in some items follows the grammar. -/
def AreProper : List Json → Prop
  | [] => True
  | j :: rest => Proper j ∧ AreProper rest

/-- Every numeral in some members follows the grammar. -/
def MembersProper : List (String × Json) → Prop
  | [] => True
  | (_, j) :: rest => Proper j ∧ MembersProper rest

end

mutual

/-- The tokens that a value is written as. -/
def tokens : Json → List Token
  | .null => [.null]
  | .bool b => [.bool b]
  | .number n => [.number n]
  | .string s => [.text (some s)]
  | .array items => .openBracket :: (itemTokens items ++ [.closeBracket])
  | .object members => .openBrace :: (memberTokens members ++ [.closeBrace])

/-- The tokens of items, with commas between. -/
def itemTokens : List Json → List Token
  | [] => []
  | [j] => tokens j
  | j :: rest => tokens j ++ .comma :: itemTokens rest

/-- The tokens of members, with commas between. -/
def memberTokens : List (String × Json) → List Token
  | [] => []
  | [(k, j)] => .text (some k) :: .colon :: tokens j
  | (k, j) :: rest => .text (some k) :: .colon :: (tokens j ++ .comma :: memberTokens rest)

end

end Json

section Written

variable {rest : List Char}

theorem tokens_stringChars (s : String) (rest : List Char) :
    tokens (Json.stringChars s ++ rest) = .text (some s) :: tokens rest := by
  simp only [Json.stringChars, List.cons_append, List.append_assoc, List.nil_append]
  exact tokens_string (readString?_stringChars s rest)

/-- A numeral begins with a digit or a minus sign. -/
theorem Numeral.Spelled.head {n : Numeral} {cs : List Char} (spelled : n.Spelled cs) :
    ∃ c tail, cs = c :: tail ∧ beginsNumeral c = true := by
  obtain ⟨proper, written⟩ := spelled
  cases n.negative with
  | true => exact ⟨'-', _, rfl, rfl⟩
  | false =>
    cases whole : n.whole with
    | nil =>
      have isWhole_eq := proper.isWhole_eq
      rw [whole] at isWhole_eq
      cases isWhole_eq
    | cons c ds =>
      have digit : c.isDigit = true := proper.whole c (whole ▸ List.mem_cons_self)
      exact ⟨c, _, rfl, by simp [beginsNumeral, digit]⟩

/-- However a numeral is written, it is one token. -/
theorem tokens_numeral {n : Numeral} {cs : List Char} (spelled : n.Spelled cs)
    (h : EndsNumeral rest) : tokens (cs ++ rest) = .number n :: tokens rest := by
  have read := spelled.read?_append h
  obtain ⟨c, tail, rfl, begins⟩ := spelled.head
  rw [List.cons_append] at read ⊢
  exact tokens_number begins read

mutual

/-- **The text of a value is cut into its tokens**, whatever follows it. -/
theorem tokens_chars : ∀ {j : Json} {rest : List Char}, j.Proper → EndsNumeral rest →
    tokens (j.chars ++ rest) = j.tokens ++ tokens rest
  | .null, rest, _, _ => tokens_null rest
  | .bool true, rest, _, _ => tokens_true rest
  | .bool false, rest, _, _ => tokens_false rest
  | .number _, _, proper, h => tokens_numeral (Numeral.Proper.spelled_chars proper) h
  | .string s, rest, _, _ => tokens_stringChars s rest
  | .array items, rest, proper, _ => by
    have inner := tokens_itemChars rest proper
    simp only [Json.chars, Json.tokens, List.cons_append, List.append_assoc, List.nil_append]
    rw [tokens_punctuation (t := .openBracket) rfl, inner]
  | .object members, rest, proper, _ => by
    have inner := tokens_memberChars rest proper
    simp only [Json.chars, Json.tokens, List.cons_append, List.append_assoc, List.nil_append]
    rw [tokens_punctuation (t := .openBrace) rfl, inner]

/-- The same for the items of an array, up to its end. -/
theorem tokens_itemChars : ∀ {items : List Json} (rest : List Char), Json.AreProper items →
    tokens (Json.itemChars items ++ ']' :: rest) =
      Json.itemTokens items ++ .closeBracket :: tokens rest
  | [], _, _ => tokens_punctuation rfl
  | [j], rest, proper => by
    rw [Json.itemChars, Json.itemTokens, tokens_chars proper.1 (.closeBracket rest),
      tokens_punctuation (t := .closeBracket) rfl]
  | j :: k :: items, rest, proper => by
    have later := tokens_itemChars rest proper.2
    simp only [Json.itemChars, Json.itemTokens, List.append_assoc, List.cons_append] at later ⊢
    rw [tokens_chars proper.1 (.comma _), tokens_punctuation (t := .comma) rfl, later]

/-- The same for the members of an object, up to its end. -/
theorem tokens_memberChars : ∀ {members : List (String × Json)} (rest : List Char),
    Json.MembersProper members →
    tokens (Json.memberChars members ++ '\x7d' :: rest) =
      Json.memberTokens members ++ .closeBrace :: tokens rest
  | [], _, _ => tokens_punctuation rfl
  | [(k, j)], rest, proper => by
    simp only [Json.memberChars, Json.memberTokens, List.append_assoc, List.cons_append]
    rw [tokens_stringChars, tokens_punctuation (t := .colon) rfl,
      tokens_chars proper.1 (.closeBrace rest), tokens_punctuation (t := .closeBrace) rfl]
  | (k, j) :: m :: members, rest, proper => by
    have later := tokens_memberChars rest proper.2
    simp only [Json.memberChars, Json.memberTokens, List.append_assoc, List.cons_append]
      at later ⊢
    rw [tokens_stringChars, tokens_punctuation (t := .colon) rfl,
      tokens_chars proper.1 (.comma _), tokens_punctuation (t := .comma) rfl, later]

end

end Written

end ChatGateway

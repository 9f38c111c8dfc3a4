import ChatGateway.Proofs.Json.Tokens

/-!
# How tokens may be written

A token may be written in several ways: the characters of a string may be escaped, exponents
may bear a sign, and blanks may stand anywhere between tokens.  The spellings of a row of
tokens are given here by rules, which share with the reader of tokens only its tables of
marks, escapes and hexadecimal digits.  Cutting a text finds the tokens that it spells,
whichever way they are written, and a text that is cut without meeting junk is a spelling of
its tokens.

The rules let two tokens stand side by side without a blank.  Cutting finds them again unless
both are numerals, and in the tokens of a value no two are.

## Main definitions

* `Token.Spelled` — the ways of writing one token.
* `Spells` — the ways of writing a row of tokens.
* `Separate` — rows of tokens that can be told apart.
* `Spells.tokens_eq` — a spelling is cut into the tokens that it spells.
* `spells_tokens` — a text is a spelling of the tokens that it is cut into.
-/

namespace ChatGateway

/-! ## Strings -/

/-- The ways of writing one piece of a string. -/
inductive Unit16.Spelled : Unit16 → List Char → Prop
  | plain {c : Char} (quote : c ≠ '"') (backslash : c ≠ '\\') (seen : ¬ c.toNat < 0x20) :
      Spelled (.char c) [c]
  | letter {l c : Char} (stands : unescape? l = some c) : Spelled (.char c) ['\\', l]
  | code {a b c d : Char} {n : Nat} (digits : hexValue4? a b c d = some n) :
      Spelled (.code n) ['\\', 'u', a, b, c, d]

/-- The ways of writing the pieces of a string. -/
inductive UnitsSpelled : List Unit16 → List Char → Prop
  | nil : UnitsSpelled [] []
  | cons {u : Unit16} {us : List Unit16} {piece cs : List Char} (written : u.Spelled piece)
      (later : UnitsSpelled us cs) : UnitsSpelled (u :: us) (piece ++ cs)

section Strings

variable {rest : List Char}

/-- A piece is read back from each of its spellings. -/
theorem Unit16.Spelled.readUnits?_append {u : Unit16} {piece : List Char}
    (spelled : u.Spelled piece) :
    readUnits? (piece ++ rest) = (readUnits? rest).map fun p => (u :: p.1, p.2) := by
  cases spelled with
  | plain quote backslash seen => exact readUnits?_plain quote backslash seen rest
  | letter stands => exact readUnits?_letter stands rest
  | code digits =>
    simp only [List.cons_append, List.nil_append, readUnits?, digits]
    cases readUnits? rest <;> rfl

/-- A string is read back from each of its spellings, up to its closing quote. -/
theorem UnitsSpelled.readUnits?_append {us : List Unit16} {cs : List Char}
    (spelled : UnitsSpelled us cs) : readUnits? (cs ++ '"' :: rest) = some (us, rest) := by
  induction spelled with
  | nil => rfl
  | cons written _ ih =>
    rw [List.append_assoc, written.readUnits?_append, ih]
    rfl

/-- The pieces that are read were spelled. -/
theorem UnitsSpelled.of_readUnits? {s : List Char} {us : List Unit16}
    (h : readUnits? s = some (us, rest)) :
    ∃ cs, s = cs ++ '"' :: rest ∧ UnitsSpelled us cs := by
  fun_induction readUnits? s generalizing us with
  | case1 => cases h
  | case2 =>
    cases h
    exact ⟨[], rfl, .nil⟩
  | case3 a b c d tail n us' rest' read digits ih =>
    cases h
    obtain ⟨cs, rfl, spelled⟩ := ih read
    exact ⟨_, rfl, .cons (.code digits) spelled⟩
  | case4 => cases h
  | case5 l tail _ c us' rest' read stands ih =>
    cases h
    obtain ⟨cs, rfl, spelled⟩ := ih read
    exact ⟨_, rfl, .cons (.letter stands) spelled⟩
  | case6 => cases h
  | case7 => cases h
  | case8 c tail quote _ escape seen us' rest' read ih =>
    cases h
    obtain ⟨cs, rfl, spelled⟩ := ih read
    have backslash : c ≠ '\\' := by
      obtain ⟨d, tail, goes_on⟩ := List.exists_cons_of_ne_nil
        (List.append_ne_nil_of_right_ne_nil cs (List.cons_ne_nil '"' rest))
      exact fun same => escape d tail same goes_on
    exact ⟨_, rfl, .cons (.plain quote backslash seen) spelled⟩
  | case9 => cases h

end Strings

/-! ## Tokens -/

/-- The ways of writing one token. -/
inductive Token.Spelled : Token → List Char → Prop
  | mark {c : Char} {t : Token} (stands : punctuation? c = some t) : Spelled t [c]
  | null : Spelled .null ['n', 'u', 'l', 'l']
  | true : Spelled (.bool true) ['t', 'r', 'u', 'e']
  | false : Spelled (.bool false) ['f', 'a', 'l', 's', 'e']
  | number {n : Numeral} {cs : List Char} (written : n.Spelled cs) : Spelled (.number n) cs
  | text {us : List Unit16} {cs : List Char} (written : UnitsSpelled us cs) :
      Spelled (.text ((joinUnits? us).map String.ofList)) ('"' :: (cs ++ ['"']))

/-- The ways of writing a row of tokens, with blanks anywhere between. -/
inductive Spells : List Token → List Char → Prop
  | nil : Spells [] []
  | blank {c : Char} {ts : List Token} {s : List Char} (blank : isBlank c = true)
      (later : Spells ts s) : Spells ts (c :: s)
  | token {t : Token} {ts : List Token} {cs s : List Char} (written : t.Spelled cs)
      (later : Spells ts s) : Spells (t :: ts) (cs ++ s)

/-- The row does not go on with a numeral. -/
def NoNumber (ts : List Token) : Prop :=
  ∀ n tail, ts ≠ .number n :: tail

/-- Rows of tokens that can be told apart: no numeral stands right after another. -/
def Separate : List Token → Prop
  | [] => True
  | .number _ :: ts => NoNumber ts ∧ Separate ts
  | _ :: ts => Separate ts

theorem Separate.tail {t : Token} {ts : List Token} (h : Separate (t :: ts)) : Separate ts := by
  cases t with
  | number => exact h.2
  | _ => exact h

/-- No mark is part of a numeral. -/
theorem EndsNumeral.mark {c : Char} {t : Token} (stands : punctuation? c = some t)
    (tail : List Char) : EndsNumeral (c :: tail) := by
  have marks : c = '[' ∨ c = ']' ∨ c = '\x7b' ∨ c = '\x7d' ∨ c = ',' ∨ c = ':' := by
    grind [punctuation?]
  rcases marks with rfl | rfl | rfl | rfl | rfl | rfl <;> exact .cons (by decide)

theorem EndsNumeral.blank {c : Char} (blank : isBlank c = true) (tail : List Char) :
    EndsNumeral (c :: tail) := by
  simp only [isBlank, Bool.or_eq_true, beq_iff_eq] at blank
  rcases blank with ((rfl | rfl) | rfl) | rfl <;> exact .cons (by decide)

/-- Blanks end a numeral, and so does any token that is no numeral itself. -/
theorem Spells.endsNumeral {ts : List Token} {s : List Char} (spells : Spells ts s)
    (other : NoNumber ts) : EndsNumeral s := by
  cases spells with
  | nil => exact .nil
  | blank blank _ => exact .blank blank _
  | token written _ =>
    cases written with
    | mark stands => exact .mark stands _
    | null | true | false | text => exact .cons (by decide)
    | number => exact absurd rfl (other _ _)

/-! ## Cutting -/

theorem tokens_blank {c : Char} (blank : isBlank c = true) (rest : List Char) :
    tokens (c :: rest) = tokens rest := by
  rw [tokens.eq_def]
  simp only [blank, if_true]

/-- **A spelling is cut into the tokens that it spells**, if they can be told apart. -/
theorem Spells.tokens_eq {ts : List Token} {s : List Char} (spells : Spells ts s)
    (separate : Separate ts) : tokens s = ts := by
  induction spells with
  | nil => rw [tokens.eq_def]
  | blank blank _ ih => rw [tokens_blank blank, ih separate]
  | @token t ts cs s written later ih =>
    have rest := ih separate.tail
    cases written with
    | mark stands => rw [List.singleton_append, tokens_punctuation stands, rest]
    | null => rw [← rest]; exact tokens_null _
    | true => rw [← rest]; exact tokens_true _
    | false => rw [← rest]; exact tokens_false _
    | number written => rw [tokens_numeral written (later.endsNumeral separate.1), rest]
    | @text us cs written =>
      have read : readString? (cs ++ '"' :: s) = some ((joinUnits? us).map String.ofList, s) :=
        congrArg (Option.map _) written.readUnits?_append
      rw [List.cons_append, List.append_assoc, List.singleton_append, tokens_string read, rest]

/-- What is read as a string, together with its opening quote, is a spelling of its token. -/
theorem Token.Spelled.of_readString? {s : List Char} {p : Option String × List Char}
    (h : readString? s = some p) :
    ∃ cs, '"' :: s = cs ++ p.2 ∧ (Token.text p.1).Spelled cs := by
  obtain ⟨⟨us, rest⟩, read, rfl⟩ := Option.map_eq_some_iff.1 h
  obtain ⟨cs, rfl, spelled⟩ := UnitsSpelled.of_readUnits? read
  exact ⟨_, by simp, .text spelled⟩

/-- **A text is a spelling of the tokens that it is cut into**, if it nowhere leaves their
grammar. -/
theorem spells_tokens {s : List Char} (clean : .junk ∉ tokens s) : Spells (tokens s) s := by
  fun_induction tokens s with
  | case1 => exact .nil
  | case2 c rest blank ih => exact .blank blank (ih clean)
  | case3 c rest _ t stands ih =>
    exact .token (.mark stands) (ih (List.not_mem_of_not_mem_cons clean))
  | case4 rest p read _ _ ih =>
    obtain ⟨cs, same, written⟩ := Token.Spelled.of_readString? read
    rw [same]
    exact .token written (ih (List.not_mem_of_not_mem_cons clean))
  | case5 => exact absurd List.mem_cons_self clean
  | case6 rest _ _ _ ih => exact .token .null (ih (List.not_mem_of_not_mem_cons clean))
  | case7 rest _ _ _ ih => exact .token .true (ih (List.not_mem_of_not_mem_cons clean))
  | case8 rest _ _ _ ih => exact .token .false (ih (List.not_mem_of_not_mem_cons clean))
  | case9 c rest _ _ _ p read _ _ _ ih =>
    obtain ⟨cs, same, written⟩ := Numeral.Spelled.of_read? read
    rw [same]
    exact .token (.number written) (ih (List.not_mem_of_not_mem_cons clean))
  | case10 => exact absurd List.mem_cons_self clean

end ChatGateway

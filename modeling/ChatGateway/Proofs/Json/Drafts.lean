import ChatGateway.Json.Draft
import ChatGateway.Proofs.Json.Spelling

/-!
# Drafts of written values

A whole draft is written as a row of tokens, which is read as that draft, and what follows it
is left.  In the middle of a container the draft is handed to the container around it, and
reading goes on there; so the statement is about any containers that stand open.

## Main definitions

* `Draft.tokens` — the tokens that a draft is written as.
* `Draft.resume` — reading goes on after one step.
* `build_tokens` — the tokens of a whole draft, inside any containers.
* `ofText_text` — the text of a value has the draft of the value, and nothing follows.
-/

namespace ChatGateway

namespace Draft

mutual

/-- The tokens that a whole draft is written as. -/
def tokens : Draft → List Token
  | .null => [.null]
  | .bool b => [.bool b]
  | .number n => [.number n]
  | .text s => [.text s]
  | .array items _ => .openBracket :: (itemTokens items ++ [.closeBracket])
  | .object members _ => .openBrace :: (memberTokens members ++ [.closeBrace])
  | .broken => []

/-- The tokens of items, with commas between. -/
def itemTokens : List Draft → List Token
  | [] => []
  | [d] => tokens d
  | d :: rest => tokens d ++ .comma :: itemTokens rest

/-- The tokens of members, with commas between. -/
def memberTokens : List (Draft × Draft) → List Token
  | [] => []
  | [(k, d)] => tokens k ++ .colon :: tokens d
  | (k, d) :: rest => tokens k ++ .colon :: (tokens d ++ .comma :: memberTokens rest)

end

/-- Reading goes on after one step. -/
def resume : Step → List Token → Draft × Option (List Token)
  | .next expected frames, rest => build expected frames rest
  | .done d, rest => (d, some rest)
  | .stop d, _ => (d, none)

theorem build_cons (expected : Expected) (frames : List Frame) (t : Token) (rest : List Token) :
    build expected frames (t :: rest) = resume (step expected frames t) rest := by
  rw [build]
  cases step expected frames t <;> rfl

end Draft

open Draft

/-! ## One token -/

section Steps

variable (frames outer : List Frame) (rest : List Token)

theorem build_value (t : Token) :
    build .value frames (t :: rest) = resume (beginValue frames t) rest :=
  build_cons .value frames t rest

/-- Where the first item of an array may stand, any value may, and so may the end. -/
theorem build_firstItem {t : Token} (done : List Draft) (goes_on : t ≠ .closeBracket) :
    build .firstItem (.array done :: outer) (t :: rest) =
      build .value (.array done :: outer) (t :: rest) := by
  rw [build_cons, build_cons]
  cases t with
  | closeBracket => exact absurd rfl goes_on
  | _ => rfl

theorem build_firstItem_end (done : List Draft) :
    build .firstItem (.array done :: outer) (.closeBracket :: rest) =
      resume (deliver (.array done.reverse true) outer) rest :=
  build_cons _ _ _ _

theorem build_item_comma (done : List Draft) :
    build .separator (.array done :: outer) (.comma :: rest) =
      build .value (.array done :: outer) rest :=
  build_cons _ _ _ _

theorem build_item_end (done : List Draft) :
    build .separator (.array done :: outer) (.closeBracket :: rest) =
      resume (deliver (.array done.reverse true) outer) rest :=
  build_cons _ _ _ _

/-- Where the first name of an object may stand, any name may, and so may the end. -/
theorem build_firstName (done : List (Draft × Draft)) (s : Option String) :
    build .firstName (.object done none :: outer) (.text s :: rest) =
      build .name (.object done none :: outer) (.text s :: rest) := by
  rw [build_cons, build_cons]
  rfl

theorem build_firstName_end (done : List (Draft × Draft)) :
    build .firstName (.object done none :: outer) (.closeBrace :: rest) =
      resume (deliver (.object done.reverse true) outer) rest :=
  build_cons _ _ _ _

theorem build_name (done : List (Draft × Draft)) (s : Option String) :
    build .name (.object done none :: outer) (.text s :: .colon :: rest) =
      build .value (.object done (some (.text s)) :: outer) rest :=
  (build_cons .name _ (.text s) (.colon :: rest)).trans
    (build_cons .colon (.object done (some (.text s)) :: outer) .colon rest)

theorem build_member_comma (done : List (Draft × Draft)) :
    build .separator (.object done none :: outer) (.comma :: rest) =
      build .name (.object done none :: outer) rest :=
  build_cons _ _ _ _

theorem build_member_end (done : List (Draft × Draft)) :
    build .separator (.object done none :: outer) (.closeBrace :: rest) =
      resume (deliver (.object done.reverse true) outer) rest :=
  build_cons _ _ _ _

end Steps

theorem isText_iff {d : Draft} : d.isText = true ↔ ∃ s, d = .text s := by
  cases d <;> simp [isText]

/-- What a whole draft begins with ends nothing. -/
theorem head_tokens {d : Draft} (whole : d.isWhole = true) :
    ∃ t tail, d.tokens = t :: tail ∧ t ≠ .closeBracket := by
  cases d with
  | broken => cases whole
  | _ => exact ⟨_, _, rfl, by simp⟩

theorem head_itemTokens {d : Draft} {items : List Draft} (whole : areWhole (d :: items) = true) :
    ∃ t tail, itemTokens (d :: items) = t :: tail ∧ t ≠ .closeBracket := by
  simp only [areWhole, Bool.and_eq_true] at whole
  obtain ⟨t, tail, tokens, goes_on⟩ := head_tokens whole.1
  cases items with
  | nil => exact ⟨t, tail, tokens, goes_on⟩
  | cons e items => exact ⟨t, _, by rw [itemTokens, tokens, List.cons_append]; simp, goes_on⟩

theorem head_memberTokens {m : Draft × Draft} {members : List (Draft × Draft)}
    (whole : pairsWhole (m :: members) = true) :
    ∃ s tail, memberTokens (m :: members) = .text s :: tail := by
  obtain ⟨k, d⟩ := m
  simp only [pairsWhole, Bool.and_eq_true] at whole
  obtain ⟨s, rfl⟩ := isText_iff.1 whole.1.1
  cases members with
  | nil => exact ⟨s, _, rfl⟩
  | cons n members =>
    refine ⟨s, .colon :: (d.tokens ++ .comma :: memberTokens (n :: members)), ?_⟩
    rw [memberTokens]
    · rfl
    · simp

/-! ## The tokens of a draft -/

mutual

/-- **The tokens of a whole draft are read as the draft**, and handed to the container around
it. -/
theorem build_tokens : ∀ (d : Draft) (frames : List Frame) (rest : List Token),
    d.isWhole = true →
    build .value frames (d.tokens ++ rest) = resume (deliver d frames) rest
  | .null, frames, rest, _ => build_value frames rest .null
  | .bool b, frames, rest, _ => build_value frames rest (.bool b)
  | .number n, frames, rest, _ => build_value frames rest (.number n)
  | .text s, frames, rest, _ => build_value frames rest (.text s)
  | .array items closed, frames, rest, whole => by
    simp only [Draft.isWhole, Bool.and_eq_true] at whole
    obtain ⟨whole, rfl⟩ := whole
    have inner := build_itemTokens items [] frames rest whole
    simp only [Draft.tokens, List.cons_append, List.append_assoc, List.nil_append]
    rw [build_value]
    cases items with
    | nil => exact build_firstItem_end frames rest []
    | cons d items =>
      obtain ⟨t, tail, tokens, goes_on⟩ := head_itemTokens whole
      rw [tokens, List.cons_append] at inner ⊢
      exact (build_firstItem frames _ [] goes_on).trans (inner (by simp))
  | .object members closed, frames, rest, whole => by
    simp only [Draft.isWhole, Bool.and_eq_true] at whole
    obtain ⟨whole, rfl⟩ := whole
    have inner := build_memberTokens members [] frames rest whole
    simp only [Draft.tokens, List.cons_append, List.append_assoc, List.nil_append]
    rw [build_value]
    cases members with
    | nil => exact build_firstName_end frames rest []
    | cons m members =>
      obtain ⟨s, tail, tokens⟩ := head_memberTokens whole
      rw [tokens, List.cons_append] at inner ⊢
      exact (build_firstName frames _ [] s).trans (inner (by simp))
  | .broken, _, _, whole => by cases whole

/-- The tokens of items, up to the end of their array. -/
theorem build_itemTokens : ∀ (items : List Draft) (done : List Draft) (outer : List Frame)
    (rest : List Token), areWhole items = true → items ≠ [] →
    build .value (.array done :: outer) (itemTokens items ++ .closeBracket :: rest) =
      resume (deliver (.array (done.reverse ++ items) true) outer) rest
  | [], _, _, _, _, some_item => absurd rfl some_item
  | [d], done, outer, rest, whole, _ => by
    simp only [areWhole, Bool.and_true] at whole
    rw [itemTokens, build_tokens d _ _ whole]
    simp only [deliver, resume, build_item_end, List.reverse_cons]
  | d :: e :: items, done, outer, rest, whole, _ => by
    rw [areWhole, Bool.and_eq_true] at whole
    have later := build_itemTokens (e :: items) (d :: done) outer rest whole.2 (by simp)
    rw [itemTokens, List.append_assoc, build_tokens d _ _ whole.1]
    · simp only [deliver, resume, List.cons_append, build_item_comma, later, List.reverse_cons,
        List.append_assoc, List.nil_append]
    · simp

/-- The tokens of members, up to the end of their object. -/
theorem build_memberTokens : ∀ (members : List (Draft × Draft)) (done : List (Draft × Draft))
    (outer : List Frame) (rest : List Token), pairsWhole members = true → members ≠ [] →
    build .name (.object done none :: outer) (memberTokens members ++ .closeBrace :: rest) =
      resume (deliver (.object (done.reverse ++ members) true) outer) rest
  | [], _, _, _, _, some_member => absurd rfl some_member
  | [(k, d)], done, outer, rest, whole, _ => by
    simp only [pairsWhole, Bool.and_true, Bool.and_eq_true] at whole
    obtain ⟨s, rfl⟩ := isText_iff.1 whole.1
    simp only [memberTokens, Draft.tokens, List.cons_append, List.nil_append]
    rw [build_name, build_tokens d _ _ whole.2]
    simp only [deliver, resume, build_member_end, List.reverse_cons]
  | (k, d) :: n :: members, done, outer, rest, whole, _ => by
    rw [pairsWhole, Bool.and_eq_true, Bool.and_eq_true] at whole
    obtain ⟨s, rfl⟩ := isText_iff.1 whole.1.1
    have later :=
      build_memberTokens (n :: members) ((.text s, d) :: done) outer rest whole.2 (by simp)
    rw [memberTokens]
    · simp only [Draft.tokens, List.cons_append, List.nil_append, List.append_assoc]
      rw [build_name, build_tokens d _ _ whole.1.2]
      simp only [deliver, resume, build_member_comma, later, List.reverse_cons,
        List.append_assoc, List.cons_append, List.nil_append]
    · simp

end

/-! ## The draft of a value -/

mutual

theorem isWhole_ofJson : ∀ j : Json, (ofJson j).isWhole = true
  | .null | .bool _ | .number _ | .string _ => rfl
  | .array items => by rw [ofJson, Draft.isWhole, areWhole_ofJsons items, Bool.and_self]
  | .object members => by rw [ofJson, Draft.isWhole, pairsWhole_ofMembers members, Bool.and_self]

theorem areWhole_ofJsons : ∀ items : List Json, areWhole (ofJsons items) = true
  | [] => rfl
  | j :: rest => by rw [ofJsons, areWhole, isWhole_ofJson j, areWhole_ofJsons rest, Bool.and_self]

theorem pairsWhole_ofMembers :
    ∀ members : List (String × Json), pairsWhole (ofMembers members) = true
  | [] => rfl
  | (k, j) :: rest => by
    rw [ofMembers, pairsWhole, isWhole_ofJson j, pairsWhole_ofMembers rest, isText, Bool.and_self,
      Bool.and_self]

end

mutual

/-- A value and its draft are written alike. -/
theorem tokens_ofJson : ∀ j : Json, (ofJson j).tokens = j.tokens
  | .null | .bool _ | .number _ | .string _ => rfl
  | .array items => by rw [ofJson, Draft.tokens, Json.tokens, itemTokens_ofJsons items]
  | .object members => by rw [ofJson, Draft.tokens, Json.tokens, memberTokens_ofMembers members]

theorem itemTokens_ofJsons :
    ∀ items : List Json, itemTokens (ofJsons items) = Json.itemTokens items
  | [] => rfl
  | [j] => by rw [ofJsons, ofJsons, itemTokens, Json.itemTokens, tokens_ofJson j]
  | j :: k :: rest => by
    have later := itemTokens_ofJsons (k :: rest)
    rw [ofJsons] at later
    rw [ofJsons, ofJsons, itemTokens, Json.itemTokens, tokens_ofJson j, later] <;> simp

theorem memberTokens_ofMembers :
    ∀ members : List (String × Json), memberTokens (ofMembers members) = Json.memberTokens members
  | [] => rfl
  | [(k, j)] => by
    rw [ofMembers, ofMembers, memberTokens, Json.memberTokens, tokens_ofJson j]
    rfl
  | (k, j) :: (l, i) :: rest => by
    have later := memberTokens_ofMembers ((l, i) :: rest)
    rw [ofMembers] at later
    rw [ofMembers, ofMembers, memberTokens, Json.memberTokens, tokens_ofJson j, later]
    · rfl
    · simp
    · simp

end

/-- **The text of a value has the draft of the value**, and is that value alone. -/
theorem ofText_text {j : Json} (proper : j.Proper) : Draft.ofText j.text = (ofJson j, true) := by
  have cut := tokens_chars proper EndsNumeral.nil
  have built := build_tokens (ofJson j) [] (tokens []) (isWhole_ofJson j)
  rw [tokens_ofJson, ← cut, List.append_nil] at built
  have empty : tokens [] = [] := by rw [tokens.eq_def]
  simp [Draft.ofText, Draft.ofTokens, Json.text, built, resume, deliver, empty]

end ChatGateway

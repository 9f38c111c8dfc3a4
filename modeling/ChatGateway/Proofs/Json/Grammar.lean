import ChatGateway.Json.Decode
import ChatGateway.Proofs.Json.Drafts

/-!
# Which texts a draft has

The texts of a whole draft are the spellings of its tokens.  Every such text is read as the
draft; this direction rests on how tokens are cut and on how the tokens of a draft are built
up again.  For the other direction the reader is followed token by token: while containers
stand open, what has been read so far is always the beginning of some draft, and when a value
is complete its tokens are exactly those that have been read.

Together the two say that reading a text is a decision procedure for the grammar: a text is
accepted as one value and nothing else exactly if it spells a whole draft, and it spells no
other draft than the one that is read.

## Main definitions

* `Draft.SpelledBy` — the texts of a whole draft.
* `Reading` — what has been read when containers stand open.
* `ofText_eq_iff` — reading a text against the grammar.
* `decodeText_eq_ok_iff` — what a typed reader accepts.
-/

namespace ChatGateway

open Draft

/-- The texts of a whole draft: the spellings of its tokens. -/
def Draft.SpelledBy (d : Draft) (s : String) : Prop :=
  d.isWhole = true ∧ Spells d.tokens s.toList

/-! ## Telling tokens apart -/

theorem NoNumber.nil : NoNumber [] := by
  intro n tail same
  cases same

theorem NoNumber.cons {t : Token} {tail : List Token} (other : ∀ n, t ≠ .number n) :
    NoNumber (t :: tail) := by
  intro n tail' same
  cases same
  exact other n rfl

mutual

/-- Two numerals of a draft never stand side by side. -/
theorem separate_tokens : ∀ (d : Draft) {rest : List Token}, NoNumber rest → Separate rest →
    Separate (d.tokens ++ rest)
  | .null, _, _, separate => separate
  | .bool _, _, _, separate => separate
  | .number _, _, other, separate => ⟨other, separate⟩
  | .text _, _, _, separate => separate
  | .array items _, rest, _, separate => by
    simp only [Draft.tokens, List.cons_append, List.append_assoc, List.nil_append]
    have ends : NoNumber (.closeBracket :: rest) := .cons nofun
    exact separate_itemTokens items ends separate
  | .object members _, rest, _, separate => by
    simp only [Draft.tokens, List.cons_append, List.append_assoc, List.nil_append]
    have ends : NoNumber (.closeBrace :: rest) := .cons nofun
    exact separate_memberTokens members ends separate
  | .broken, _, _, separate => separate

theorem separate_itemTokens : ∀ (items : List Draft) {rest : List Token}, NoNumber rest →
    Separate rest → Separate (itemTokens items ++ rest)
  | [], _, _, separate => separate
  | [d], _, other, separate => separate_tokens d other separate
  | d :: e :: items, rest, other, separate => by
    have later := separate_itemTokens (e :: items) other separate
    rw [itemTokens, List.append_assoc]
    · exact separate_tokens d (.cons nofun) later
    · simp

theorem separate_memberTokens : ∀ (members : List (Draft × Draft)) {rest : List Token},
    NoNumber rest → Separate rest → Separate (memberTokens members ++ rest)
  | [], _, _, separate => separate
  | [(k, d)], rest, other, separate => by
    have value := separate_tokens d other separate
    rw [memberTokens, List.append_assoc]
    exact separate_tokens k (.cons nofun) value
  | (k, d) :: n :: members, rest, other, separate => by
    have later := separate_memberTokens (n :: members) other separate
    have ends : NoNumber (.comma :: (memberTokens (n :: members) ++ rest)) := .cons nofun
    have value := separate_tokens d ends later
    rw [memberTokens, List.append_assoc, List.cons_append, List.append_assoc]
    · exact separate_tokens k (.cons nofun) value
    · simp

end

/-! ## What has been read -/

namespace Draft

/-- The tokens of items that more items follow. -/
def openItems (items : List Draft) : List Token :=
  items.flatMap fun d => d.tokens ++ [.comma]

/-- The tokens of members that more members follow. -/
def openMembers (members : List (Draft × Draft)) : List Token :=
  members.flatMap fun m => m.1.tokens ++ .colon :: (m.2.tokens ++ [.comma])

theorem itemTokens_concat (items : List Draft) (d : Draft) :
    itemTokens (items ++ [d]) = openItems items ++ d.tokens := by
  induction items with
  | nil => rfl
  | cons e items ih =>
    rw [List.cons_append, itemTokens, ih]
    · simp [openItems]
    · simp

theorem memberTokens_concat (members : List (Draft × Draft)) (k d : Draft) :
    memberTokens (members ++ [(k, d)]) =
      openMembers members ++ (k.tokens ++ .colon :: d.tokens) := by
  induction members with
  | nil => rfl
  | cons m members ih =>
    obtain ⟨l, e⟩ := m
    rw [List.cons_append, memberTokens, ih]
    · simp [openMembers]
    · simp

theorem areWhole_append (xs ys : List Draft) :
    areWhole (xs ++ ys) = (areWhole xs && areWhole ys) := by
  induction xs with
  | nil => rfl
  | cons x xs ih => simp only [List.cons_append, areWhole, ih, Bool.and_assoc]

theorem pairsWhole_append (xs ys : List (Draft × Draft)) :
    pairsWhole (xs ++ ys) = (pairsWhole xs && pairsWhole ys) := by
  induction xs with
  | nil => rfl
  | cons x xs ih =>
    obtain ⟨k, d⟩ := x
    simp only [List.cons_append, pairsWhole, ih, Bool.and_assoc]

end Draft

/-- The tokens that have been read where a value comes next, inside these containers. -/
inductive Awaiting : List Frame → List Token → Prop
  | outermost : Awaiting [] []
  | item {outer : List Frame} {ts : List Token} {done : List Draft} (around : Awaiting outer ts)
      (whole : areWhole done.reverse = true) :
      Awaiting (.array done :: outer) (ts ++ .openBracket :: openItems done.reverse)
  | member {outer : List Frame} {ts : List Token} {done : List (Draft × Draft)} {name : Draft}
      (around : Awaiting outer ts) (whole : pairsWhole done.reverse = true)
      (named : name.isText = true) :
      Awaiting (.object done (some name) :: outer)
        (ts ++ .openBrace :: (openMembers done.reverse ++ (name.tokens ++ [.colon])))

/-- The tokens that have been read inside these containers, by what may come next. -/
inductive Reading : Expected → List Frame → List Token → Prop
  | value {frames : List Frame} {ts : List Token} (awaiting : Awaiting frames ts) :
      Reading .value frames ts
  | firstItem {outer : List Frame} {ts : List Token} (around : Awaiting outer ts) :
      Reading .firstItem (.array [] :: outer) (ts ++ [.openBracket])
  | firstName {outer : List Frame} {ts : List Token} (around : Awaiting outer ts) :
      Reading .firstName (.object [] none :: outer) (ts ++ [.openBrace])
  | name {outer : List Frame} {ts : List Token} {done : List (Draft × Draft)}
      (around : Awaiting outer ts) (whole : pairsWhole done.reverse = true) :
      Reading .name (.object done none :: outer) (ts ++ .openBrace :: openMembers done.reverse)
  | colon {outer : List Frame} {ts : List Token} {done : List (Draft × Draft)} {name : Draft}
      (around : Awaiting outer ts) (whole : pairsWhole done.reverse = true)
      (named : name.isText = true) :
      Reading .colon (.object done (some name) :: outer)
        (ts ++ .openBrace :: (openMembers done.reverse ++ name.tokens))
  | item {outer : List Frame} {ts : List Token} {done : List Draft} {d : Draft}
      (around : Awaiting outer ts) (whole : areWhole (done.reverse ++ [d]) = true) :
      Reading .separator (.array (d :: done) :: outer)
        (ts ++ .openBracket :: itemTokens (done.reverse ++ [d]))
  | member {outer : List Frame} {ts : List Token} {done : List (Draft × Draft)} {name d : Draft}
      (around : Awaiting outer ts) (whole : pairsWhole (done.reverse ++ [(name, d)]) = true) :
      Reading .separator (.object ((name, d) :: done) none :: outer)
        (ts ++ .openBrace :: memberTokens (done.reverse ++ [(name, d)]))

/-- What a step has come to: the tokens read so far still begin a draft, or are the tokens of
a whole one. -/
def Step.Keeps (ts : List Token) : Step → Prop
  | .next expected frames => Reading expected frames ts
  | .done d => d.isWhole = true ∧ d.tokens = ts
  | .stop _ => True

/-- A complete value is handed to the container around it. -/
theorem keeps_deliver {frames : List Frame} {ts : List Token} {d : Draft}
    (awaiting : Awaiting frames ts) (whole : d.isWhole = true) :
    Step.Keeps (ts ++ d.tokens) (deliver d frames) := by
  cases awaiting with
  | outermost => exact ⟨whole, rfl⟩
  | @item outer ts done around earlier =>
    have read : Reading .separator (.array (d :: done) :: outer) _ :=
      .item around (by rw [areWhole_append, earlier, areWhole, whole]; rfl)
    rw [itemTokens_concat] at read
    simpa [deliver, Step.Keeps] using read
  | @member outer ts done name around earlier named =>
    have read : Reading .separator (.object ((name, d) :: done) none :: outer) _ :=
      .member around (by rw [pairsWhole_append, earlier, pairsWhole, whole, named]; rfl)
    rw [memberTokens_concat] at read
    simpa [deliver, Step.Keeps] using read

theorem keeps_beginValue {frames : List Frame} {ts : List Token} (awaiting : Awaiting frames ts)
    (t : Token) : Step.Keeps (ts ++ [t]) (beginValue frames t) := by
  cases t with
  | openBracket => exact .firstItem awaiting
  | openBrace => exact .firstName awaiting
  | null => exact keeps_deliver (d := .null) awaiting rfl
  | bool b => exact keeps_deliver (d := .bool b) awaiting rfl
  | number n => exact keeps_deliver (d := .number n) awaiting rfl
  | text s => exact keeps_deliver (d := .text s) awaiting rfl
  | _ => trivial

theorem keeps_beginName {outer : List Frame} {ts : List Token} {done : List (Draft × Draft)}
    (around : Awaiting outer ts) (whole : pairsWhole done.reverse = true) (t : Token) :
    Step.Keeps (ts ++ .openBrace :: openMembers done.reverse ++ [t])
      (beginName (.object done none :: outer) t) := by
  cases t with
  | text s =>
    rw [List.append_assoc]
    exact @Reading.colon _ _ _ (.text s) around whole rfl
  | _ => trivial

/-- **One token** more is read. -/
theorem keeps_step {expected : Expected} {frames : List Frame} {ts : List Token}
    (reading : Reading expected frames ts) (t : Token) :
    Step.Keeps (ts ++ [t]) (step expected frames t) := by
  cases reading with
  | value awaiting => exact keeps_beginValue awaiting t
  | firstItem around =>
    have first := keeps_beginValue (@Awaiting.item _ _ [] around rfl) t
    cases t with
    | closeBracket =>
      rw [List.append_assoc]
      exact keeps_deliver (d := .array [] true) around rfl
    | _ => exact first
  | firstName around =>
    have first := @keeps_beginName _ _ [] around rfl t
    cases t with
    | closeBrace =>
      rw [List.append_assoc]
      exact keeps_deliver (d := .object [] true) around rfl
    | _ => exact first
  | name around whole => exact keeps_beginName around whole t
  | colon around whole named =>
    cases t with
    | colon =>
      have read := Reading.value (.member around whole named)
      simpa [step, Step.Keeps] using read
    | _ => trivial
  | @item outer ts done d around whole =>
    cases t with
    | comma =>
      have read := Reading.value (@Awaiting.item _ _ (d :: done) around (by simpa using whole))
      simpa [step, Step.Keeps, openItems, itemTokens_concat] using read
    | closeBracket =>
      have closed := keeps_deliver (d := .array (done.reverse ++ [d]) true) around
        (by rw [Draft.isWhole, whole]; rfl)
      simpa [step, Draft.tokens] using closed
    | _ => trivial
  | @member outer ts done name d around whole =>
    cases t with
    | comma =>
      have read := @Reading.name _ _ ((name, d) :: done) around (by simpa using whole)
      simpa [step, Step.Keeps, openMembers, memberTokens_concat] using read
    | closeBrace =>
      have closed := keeps_deliver (d := .object (done.reverse ++ [(name, d)]) true) around
        (by rw [Draft.isWhole, whole]; rfl)
      simpa [step, Draft.tokens] using closed
    | _ => trivial

/-- Junk ends every reading. -/
theorem step_junk {expected : Expected} {frames : List Frame} {ts : List Token}
    (reading : Reading expected frames ts) : ∃ d, step expected frames .junk = .stop d := by
  cases reading <;> exact ⟨_, rfl⟩

/-- **A whole reading**: where a value is complete, the tokens that were read are its own, and
none of them is junk. -/
theorem of_build {expected : Expected} {frames : List Frame} {ts rest left : List Token}
    {d : Draft} (reading : Reading expected frames ts)
    (built : build expected frames rest = (d, some left)) :
    ∃ read, rest = read ++ left ∧ d.isWhole = true ∧ d.tokens = ts ++ read ∧ .junk ∉ read := by
  induction rest generalizing expected frames ts with
  | nil => cases built
  | cons t rest ih =>
    have keeps := keeps_step reading t
    rw [build_cons] at built
    have clean : t ≠ .junk := by
      rintro rfl
      obtain ⟨d, stops⟩ := step_junk reading
      rw [stops] at built
      cases built
    cases stepped : step expected frames t with
    | next expected' frames' =>
      rw [stepped] at keeps built
      obtain ⟨read, rfl, whole, tokens, cleanRest⟩ := ih keeps built
      refine ⟨t :: read, rfl, whole, by simpa using tokens, ?_⟩
      exact List.not_mem_cons_of_ne_of_not_mem clean.symm cleanRest
    | done d' =>
      rw [stepped] at keeps built
      cases built
      exact ⟨[t], rfl, keeps.1, keeps.2, by simpa using clean.symm⟩
    | stop d' =>
      rw [stepped] at built
      cases built

/-! ## Reading against the grammar -/

/-- A text that is cut into the tokens of a whole draft spells it. -/
theorem Draft.spelledBy_of_tokens {s : String} {d : Draft} (whole : d.isWhole = true)
    (clean : .junk ∉ d.tokens) (cut : ChatGateway.tokens s.toList = d.tokens) : d.SpelledBy s := by
  rw [← cut] at clean
  exact ⟨whole, cut ▸ spells_tokens clean⟩

/-- **A text spells a whole draft exactly if it is read as that draft and nothing follows.** -/
theorem ofText_eq_iff {s : String} {d : Draft} : Draft.ofText s = (d, true) ↔ d.SpelledBy s := by
  have unfolded : Draft.ofText s = (d, true) ↔
      build .value [] (ChatGateway.tokens s.toList) = (d, some []) := by
    simp only [Draft.ofText, Draft.ofTokens, beq_iff_eq, Prod.ext_iff]
  rw [unfolded]
  constructor
  · intro built
    obtain ⟨read, tokens, whole, same, clean⟩ := of_build (.value .outermost) built
    rw [List.append_nil] at tokens
    rw [List.nil_append] at same
    exact Draft.spelledBy_of_tokens whole (same ▸ clean) (tokens.trans same.symm)
  · rintro ⟨whole, spells⟩
    have separate := separate_tokens d .nil trivial
    rw [List.append_nil] at separate
    have built := build_tokens d [] [] whole
    rw [spells.tokens_eq separate]
    simpa [resume, deliver] using built

/-- A text spells one draft at most. -/
theorem Draft.SpelledBy.unique {s : String} {d e : Draft} (h : d.SpelledBy s)
    (h' : e.SpelledBy s) : d = e := by
  have same := (ofText_eq_iff.2 h).symm.trans (ofText_eq_iff.2 h')
  exact congrArg Prod.fst same

/-- **A typed reader accepts a text** if the text spells a draft that it accepts. -/
theorem decodeText_eq_ok_iff {α : Type} {dec : Decoder α} {s : String} {a : α} :
    decodeText dec s = .ok a ↔ ∃ d : Draft, d.SpelledBy s ∧ dec d = .ok a := by
  constructor
  · intro accepted
    simp only [decodeText] at accepted
    split at accepted
    · cases accepted
    · rename_i a' read
      split at accepted
      case isTrue alone =>
        cases accepted
        exact ⟨(Draft.ofText s).1, ofText_eq_iff.1 (Prod.ext rfl alone), read⟩
      case isFalse => cases accepted
  · rintro ⟨d, spelled, read⟩
    simp only [decodeText, ofText_eq_iff.2 spelled, read, if_true]

end ChatGateway

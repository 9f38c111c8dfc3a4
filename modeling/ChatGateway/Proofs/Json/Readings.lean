import ChatGateway.Proofs.Json.Decoding
import ChatGateway.Proofs.Json.Drafts

/-!
# Typed readers of written values

A typed reader and the value that is written for a type belong together: the reader reads
back what was written.  There is one law for each shape, from the laws of its parts.  In the
other direction, whatever a reader accepts has the properties that its parts give it.

## Main definitions

* `Decoder.Reads` — a value is read as something.
* `reads_word64`, `reads_optional`, `reads_list`, `reads_dict`, `reads_object` — the laws.
* `decodeText_of_reads` — what is read from a value is read from its text.
* `Decoder.Gives`, `Record.gives` — what is known of all that is read.
-/

namespace ChatGateway

/-- A value is read as `a`. -/
abbrev Decoder.Reads {α : Type} (dec : Decoder α) (j : Json) (a : α) : Prop :=
  dec (Draft.ofJson j) = .ok a

variable {α σ : Type}

/-- What is read from a value is read from its text. -/
theorem decodeText_of_reads {dec : Decoder α} {j : Json} {a : α} (proper : j.Proper)
    (reads : dec.Reads j a) : decodeText dec j.text = .ok a := by
  simp only [decodeText, ofText_text proper, reads, if_true]

/-! ## Values whose numerals follow the grammar -/

namespace Json

@[simp] theorem proper_string (s : String) : (Json.string s).Proper := trivial

@[simp] theorem proper_ofNat (n : Nat) : (Json.ofNat n).Proper :=
  Numeral.proper_ofNat n

@[simp] theorem proper_ofInt (i : Int) : (Json.ofInt i).Proper :=
  Numeral.proper_ofInt i

theorem areProper_iff {items : List Json} : AreProper items ↔ ∀ j ∈ items, j.Proper := by
  induction items with
  | nil => simp [AreProper]
  | cons j items ih => simp [AreProper, ih]

theorem membersProper_iff {members : List (String × Json)} :
    MembersProper members ↔ ∀ m ∈ members, m.2.Proper := by
  induction members with
  | nil => simp [MembersProper]
  | cons m members ih => simp [MembersProper, ih]

theorem proper_array {f : α → Json} {as : List α} (h : ∀ a ∈ as, (f a).Proper) :
    (Json.array (as.map f)).Proper :=
  areProper_iff.2 (by simpa using h)

theorem proper_object {members : List (String × Json)} (h : ∀ m ∈ members, m.2.Proper) :
    (Json.object members).Proper :=
  membersProper_iff.2 h

/-- The value of a dictionary that lists its entries in some order. -/
def listing (f : α → Json) (l : List (String × α)) : Json :=
  .object (l.map fun e => (e.1, f e.2))

theorem proper_listing {f : α → Json} (h : ∀ a, (f a).Proper) (l : List (String × α)) :
    (listing f l).Proper := by
  refine proper_object fun m mem => ?_
  obtain ⟨e, -, rfl⟩ := List.mem_map.1 mem
  exact h e.2

theorem proper_orNull {f : α → Json} (h : ∀ a, (f a).Proper) (o : Option α) :
    (Json.orNull f o).Proper := by
  cases o with
  | none => trivial
  | some a => exact h a

theorem proper_of_mem_member? {name : String} {f : α → Json} (h : ∀ a, (f a).Proper)
    {o : Option α} {m : String × Json} (mem : m ∈ Json.member? name f o) : m.2.Proper := by
  cases o with
  | none => cases mem
  | some a =>
    obtain rfl := List.mem_singleton.1 mem
    exact h a

end Json

/-! ## Scalars -/

theorem reads_string (s : String) : Decoder.string.Reads (.string s) s := rfl

/-- An integer between the bounds is read, if a word holds it. -/
theorem reads_integer (wanted : String) {low high i : Int} (above : low ≤ i) (below : i ≤ high)
    (least : int64Min ≤ i) (most : i ≤ word64Max) :
    (Decoder.integer wanted low high).Reads (.ofInt i) i := by
  simp only [Decoder.Reads, Json.ofInt, Draft.ofJson, Decoder.integer, value?_ofInt least most,
    if_pos (And.intro above below)]

theorem reads_natural (wanted : String) {high n : Nat} (below : n ≤ high)
    (most : n ≤ word64Max) :
    (Decoder.integer wanted 0 high).Reads (.ofNat n) n := by
  have reads : (Decoder.integer wanted 0 high).Reads (.ofInt n) n :=
    reads_integer wanted (by omega) (by omega) (by simp only [int64Min]; omega) (by omega)
  rwa [Json.ofInt, Numeral.ofInt_natCast] at reads

theorem reads_word32 (n : UInt32) : Decoder.word32.Reads (.ofNat n.toNat) n := by
  have bound := toNat_le_word32Max n
  have most : n.toNat ≤ word64Max := Nat.le_trans bound (by decide)
  simp only [Decoder.Reads, Decoder.word32, reads_natural "u32" bound most, Except.map,
    Int.toNat_natCast, UInt32.ofNat_toNat]

theorem reads_word64 (n : UInt64) : Decoder.word64.Reads (.ofNat n.toNat) n := by
  have bound := toNat_le_word64Max n
  simp only [Decoder.Reads, Decoder.word64, reads_natural "u64" bound bound, Except.map,
    Int.toNat_natCast, UInt64.ofNat_toNat]

theorem reads_int64 (i : Int64) : Decoder.int64.Reads (.ofInt i.toInt) i := by
  have low := i.le_toInt
  have high := i.toInt_lt
  have reads : (Decoder.integer "i64" int64Min int64Max).Reads (.ofInt i.toInt) i.toInt :=
    reads_integer "i64" (by simp only [int64Min]; omega) (by simp only [int64Max]; omega)
      (by simp only [int64Min]; omega) (by simp only [word64Max]; omega)
  simp only [Decoder.Reads, Decoder.int64, reads, Except.map, Int64.ofInt_toInt]

/-! ## Shapes -/

section Shapes

variable {dec : Decoder α} {f : α → Json}

/-- A value that is not written as null is read where it may be absent. -/
theorem reads_some {j : Json} {a : α} (seen : j ≠ .null) (reads : dec.Reads j a) :
    (Decoder.optional dec).Reads j (some a) := by
  simp only [Decoder.Reads, Decoder.optional] at reads ⊢
  split
  · cases j <;> simp_all [Draft.ofJson]
  · rw [reads]
    rfl

/-- An option is read from null or from its value. -/
theorem reads_optional {o : Option α} (seen : ∀ a, f a ≠ .null)
    (reads : ∀ a, o = some a → dec.Reads (f a) a) :
    (Decoder.optional dec).Reads (Json.orNull f o) o := by
  cases o with
  | none => rfl
  | some a => exact reads_some (seen a) (reads a rfl)

theorem reads_items {as : List α} (reads : ∀ a ∈ as, dec.Reads (f a) a) :
    Decoder.items dec (Draft.ofJsons (as.map f)) = .ok as := by
  induction as with
  | nil => rfl
  | cons a as ih =>
    have head : dec.Reads (f a) a := reads a List.mem_cons_self
    have tail := ih fun b mem => reads b (List.mem_cons_of_mem _ mem)
    simp only [List.map_cons, Draft.ofJsons, Decoder.items, head, tail, Except.map]

theorem reads_list {as : List α} (reads : ∀ a ∈ as, dec.Reads (f a) a) :
    (Decoder.list dec).Reads (.array (as.map f)) as := by
  simp only [Decoder.Reads, Draft.ofJson, Decoder.list, reads_items reads, if_true]

theorem reads_entries {l : List (String × α)} (reads : ∀ e ∈ l, dec.Reads (f e.2) e.2)
    (acc : Dict α) :
    Decoder.entries dec acc (Draft.ofMembers (l.map fun e => (e.1, f e.2))) =
      .ok (l.foldl (fun acc e => acc.insert e.1 e.2) acc) := by
  induction l generalizing acc with
  | nil => rfl
  | cons e l ih =>
    have head : dec.Reads (f e.2) e.2 := reads e List.mem_cons_self
    have tail := fun acc => ih (fun b mem => reads b (List.mem_cons_of_mem _ mem)) acc
    simp only [List.map_cons, Draft.ofMembers, Decoder.entries, head, tail, List.foldl_cons]

/-- A dictionary is read back, in whatever order its entries are listed. -/
theorem reads_dict {d : Dict α} {l : List (String × α)} (listed : l.Perm d.entries)
    (reads : ∀ a, dec.Reads (f a) a) : (Decoder.dict dec).Reads (Json.listing f l) d := by
  have entries := reads_entries (fun e (_ : e ∈ l) => reads e.2) .empty
  rw [← Dict.ofList, Dict.ofList_of_perm listed] at entries
  simp only [Decoder.Reads, Json.listing, Draft.ofJson, Decoder.dict, entries, if_true]

theorem reads_variant {variants : List (String × α)} {name : String} {a : α}
    (known : variants.lookup name = some a) :
    (Decoder.variant variants).Reads (.string name) a := by
  simp only [Decoder.Reads, Draft.ofJson, Decoder.variant, Decoder.choice, known]

/-- A record is read from members that fill its slots. -/
theorem reads_object {r : Record σ α} {members : List (String × Json)} {s : σ} {a : α}
    (filled : Record.fromMembers r.fields r.blank (Draft.ofMembers members) = .ok s)
    (finished : r.finish s = .ok a) : r.decode.Reads (.object members) a := by
  simp only [Decoder.Reads, Draft.ofJson, Record.decode, filled, finished, if_true]

end Shapes

/-! ## All that is read -/

/-- All that a reader accepts has a property. -/
def Decoder.Gives (dec : Decoder α) (P : α → Prop) : Prop :=
  ∀ d a, dec d = .ok a → P a

theorem Decoder.Gives.of_decodeText {dec : Decoder α} {P : α → Prop} (gives : dec.Gives P)
    {s : String} {a : α} (read : decodeText dec s = .ok a) : P a := by
  simp only [decodeText] at read
  split at read
  · cases read
  · rename_i accepted
    split at read
    · cases read
      exact gives _ _ accepted
    · cases read

/-- A value is read back from the text that is written for it. -/
def Decoder.ReadsBack (dec : Decoder α) (write : α → Json) (a : α) : Prop :=
  decodeText dec (write a).text = .ok a

/-- If a property is all that is asked of a value, and all that is known of one that is read,
then the values that have it are those that are read back. -/
theorem readsBack_iff {dec : Decoder α} {write : α → Json} {P : α → Prop} {a : α}
    (proper : (write a).Proper) (reads : P a → dec.Reads (write a) a) (gives : dec.Gives P) :
    dec.ReadsBack write a ↔ P a :=
  ⟨gives.of_decodeText, fun h => decodeText_of_reads proper (reads h)⟩

section Shapes

variable {dec : Decoder α} {P : α → Prop}

theorem of_items (gives : dec.Gives P) {ds : List Draft} {as : List α}
    (read : Decoder.items dec ds = .ok as) : ∀ a ∈ as, P a := by
  induction ds generalizing as with
  | nil =>
    cases read
    simp
  | cons d ds ih =>
    obtain ⟨a, rest, head, tail, rfl⟩ := Decoder.items_cons_eq_ok_iff.1 read
    exact List.forall_mem_cons.2 ⟨gives d a head, ih tail⟩

theorem Decoder.Gives.list (gives : dec.Gives P) :
    (Decoder.list dec).Gives fun as => ∀ a ∈ as, P a := by
  intro d as read
  cases d with
  | array ds closed => exact of_items gives (Decoder.list_eq_ok_iff.1 read).1
  | _ => cases read

theorem Decoder.Gives.optional (gives : dec.Gives P) :
    (Decoder.optional dec).Gives fun o => ∀ a, o = some a → P a := by
  rintro d o read a rfl
  simp only [Decoder.optional] at read
  split at read
  · cases read
  · cases accepted : dec d with
    | error e => simp [accepted, Except.map] at read
    | ok b =>
      obtain rfl : b = a := by simpa [accepted, Except.map] using read
      exact gives _ _ accepted

end Shapes

section Records

variable {I : σ → Prop}

/-- Reading a value into the slot of a field keeps an invariant of the slots. -/
def Field.Keeps (f : Field σ) (I : σ → Prop) : Prop :=
  ∀ d s s', I s → f.read d s = .ok s' → I s'

theorem Field.keeps_of {β : Type} {name : String} {defaulted : Bool} {get : σ → Option β}
    {set : σ → β → σ} {dec : Decoder β} {P : β → Prop} (gives : dec.Gives P)
    (kept : ∀ s b, I s → P b → I (set s b)) : (Field.of name defaulted get set dec).Keeps I := by
  intro d s s' h read
  obtain ⟨b, accepted, rfl⟩ := Field.read_of_eq_ok_iff.1 read
  exact kept s b h (gives d b accepted)

/-- A field whose slot the invariant does not speak of. -/
theorem Field.keeps_of_any {β : Type} {name : String} {defaulted : Bool} {get : σ → Option β}
    {set : σ → β → σ} {dec : Decoder β} (kept : ∀ s b, I s → I (set s b)) :
    (Field.of name defaulted get set dec).Keeps I :=
  Field.keeps_of (P := fun _ => True) (fun _ _ _ => trivial) fun s b h _ => kept s b h

theorem of_fromMembers {fields : List (Field σ)} (keeps : ∀ f ∈ fields, f.Keeps I)
    {members : List (Draft × Draft)} {s s' : σ} (h : I s)
    (read : Record.fromMembers fields s members = .ok s') : I s' := by
  induction members generalizing s with
  | nil =>
    cases read
    exact h
  | cons m members ih =>
    obtain ⟨s₁, fills, later⟩ := Record.fromMembers_cons_eq_ok_iff.1 read
    cases fills with
    | known found _ filled =>
      exact ih (keeps _ (List.mem_of_find?_eq_some found) _ _ _ h filled) later
    | other => exact ih h later

theorem of_fromItems {wanted : String} {closed : Bool} {fields : List (Field σ)}
    (keeps : ∀ f ∈ fields, f.Keeps I) {n : Nat} {items : List Draft} {s s' : σ} (h : I s)
    (read : Record.fromItems wanted closed fields n s items = .ok s') : I s' := by
  induction fields generalizing n items s with
  | nil =>
    cases items with
    | nil =>
      simp only [Record.fromItems] at read
      split at read
      · cases read
        exact h
      · cases read
    | cons d items => cases read
  | cons f fields ih =>
    have later : ∀ g ∈ fields, g.Keeps I := fun g mem => keeps g (List.mem_cons_of_mem _ mem)
    cases items with
    | nil =>
      simp only [Record.fromItems] at read
      split at read
      · cases read
      · split at read
        · exact ih later h read
        · cases read
    | cons d items =>
      simp only [Record.fromItems] at read
      split at read
      · cases read
      · rename_i filled
        exact ih later (keeps f List.mem_cons_self _ _ _ h filled) read

/-- What every field keeps of the slots, and the record makes of them, holds of all that is
read as the record, be it an object or an array. -/
theorem Record.gives {r : Record σ α} {P : α → Prop} (blank : I r.blank)
    (keeps : ∀ f ∈ r.fields, f.Keeps I) (made : ∀ s a, I s → r.finish s = .ok a → P a) :
    r.decode.Gives P := by
  intro d a read
  cases d with
  | object members closed =>
    obtain ⟨s, filled, -, finish⟩ := Record.decode_object_eq_ok_iff.1 read
    exact made s a (of_fromMembers keeps blank filled) finish
  | array items closed =>
    simp only [Record.decode] at read
    split at read
    · cases read
    · rename_i filled
      exact made _ _ (of_fromItems keeps blank filled) read
  | _ => cases read

end Records

end ChatGateway

import ChatGateway.Proofs.Json.Decoding
import Mathlib.Data.List.Pairwise

/-!
# The members of a record

A record that is written as an object does not depend on the order of its members, nor on
members that no field is named after, nor on members that say what would hold without them.
This rests on what the fields of the record do: each keeps to a slot of its own, and a slot
that has been filled stays filled.  Reading the members one after another then is a run of
steps of which any two commute.

## Main definitions

* `Field.Apart` — two fields keep to slots of their own.
* `Record.Lawful` — what is asked of the fields of a record.
* `Record.Amend` — changes to members that should not matter.
* `Record.Amend.decode_eq_ok` — they do not.
-/

namespace ChatGateway

variable {σ α : Type}

/-! ## Fields -/

namespace Field

/-- A slot that has been read into is filled. -/
def Settled (f : Field σ) : Prop :=
  ∀ v s s', f.read v s = .ok s' → f.filled s' = true

/-- Two fields keep to slots of their own: neither fills the slot of the other, and it does
not matter which is read first. -/
structure Apart (f g : Field σ) : Prop where
  left : ∀ v s s', f.read v s = .ok s' → g.filled s' = g.filled s
  right : ∀ v s s', g.read v s = .ok s' → f.filled s' = f.filled s
  swap : ∀ v w s t,
    (f.read v s).bind (g.read w) = .ok t ↔ (g.read w s).bind (f.read v) = .ok t

instance : Std.Symm (@Apart σ) where
  symm _ _ h := ⟨h.right, h.left, fun v w s t => (h.swap w v s t).symm⟩

section Of

variable {β γ : Type} {name name' : String} {defaulted defaulted' : Bool} {get : σ → Option β}
  {set : σ → β → σ} {dec : Decoder β} {get' : σ → Option γ} {set' : σ → γ → σ}
  {dec' : Decoder γ}

/-- Fields are apart if their setters write to different places. -/
@[simp] theorem apart_of (left : ∀ s a, get' (set s a) = get' s)
    (right : ∀ s b, get (set' s b) = get s) (swap : ∀ s a b, set' (set s a) b = set (set' s b) a) :
    (Field.of name defaulted get set dec).Apart
      (Field.of name' defaulted' get' set' dec') where
  left v s s' read := by
    obtain ⟨a, -, rfl⟩ := read_of_eq_ok_iff.1 read
    exact congrArg Option.isSome (left s a)
  right v s s' read := by
    obtain ⟨b, -, rfl⟩ := read_of_eq_ok_iff.1 read
    exact congrArg Option.isSome (right s b)
  swap v w s t := by
    simp only [Field.of]
    cases dec v <;> cases dec' w <;> simp [Except.map, Except.bind, swap]

@[simp] theorem settled_of (own : ∀ s a, get (set s a) = some a) :
    (Field.of name defaulted get set dec).Settled := by
  intro v s s' read
  obtain ⟨a, -, rfl⟩ := read_of_eq_ok_iff.1 read
  exact congrArg Option.isSome (own s a)

end Of

end Field

/-! ## Records -/

namespace Record

variable {β : Type} {r : Record σ α} {defaults : List (String × Draft)} {name : String}
  {defaulted : Bool} {get : σ → Option β} {set : σ → β → σ} {dec : Decoder β}

/-- A member that fills a slot of the record with what would hold if the slot stayed empty. -/
def Spares (r : Record σ α) (name : String) (v : Draft) : Prop :=
  ∃ f, r.fields.find? (fun f => f.name == name) = some f ∧
    ∀ s s', f.filled s = false → f.read v s = .ok s' → r.finish s' = r.finish s

/-- What is asked of the fields of a record: a slot that is filled stays filled, any two
fields keep to slots of their own, and the defaults may be left out. -/
structure Lawful (r : Record σ α) (defaults : List (String × Draft)) : Prop where
  settled : ∀ f ∈ r.fields, f.Settled
  apart : r.fields.Pairwise Field.Apart
  spared : ∀ p ∈ defaults, r.Spares p.1 p.2

/-- A default is spared if the record makes the same of it as of an empty slot. -/
theorem spares_of {v : Draft} {b : β}
    (found : r.fields.find? (fun f => f.name == name) = some (.of name defaulted get set dec))
    (read : dec v = .ok b) (idle : ∀ s, get s = none → r.finish (set s b) = r.finish s) :
    r.Spares name v := by
  refine ⟨_, found, ?_⟩
  intro s s' empty filled
  obtain ⟨b', read', rfl⟩ := Field.read_of_eq_ok_iff.1 filled
  obtain rfl := Except.ok.inj (read.symm.trans read')
  exact idle s (Option.not_isSome_iff_eq_none.1 (Bool.eq_false_iff.1 empty))

/-! ### Order -/

/-- **Two members commute**: different fields keep to their own slots, and the same field
cannot be filled twice. -/
theorem Lawful.fills_swap (lawful : r.Lawful defaults) {m n : Draft × Draft} {s s₁ t : σ}
    (first : Fills r.fields s m s₁) (second : Fills r.fields s₁ n t) :
    ∃ s₂, Fills r.fields s n s₂ ∧ Fills r.fields s₂ m t := by
  cases first with
  | other missing whole => exact ⟨t, second, .other missing whole⟩
  | @known k v f s₁ found empty read =>
    cases second with
    | other missing whole => exact ⟨s, .other missing whole, .known found empty read⟩
    | @known l w g t found' empty' read' =>
      have mem := List.mem_of_find?_eq_some found
      have different : f ≠ g := by
        rintro rfl
        have filled := lawful.settled f mem v s s₁ read
        rw [filled] at empty'
        cases empty'
      have apart : f.Apart g :=
        lawful.apart.forall mem (List.mem_of_find?_eq_some found') different
      have swapped := (apart.swap v w s t).1 (by rw [read]; exact read')
      cases read₂ : g.read w s with
      | error e =>
        rw [read₂] at swapped
        cases swapped
      | ok s₂ =>
        rw [read₂] at swapped
        refine ⟨s₂, .known found' ?_ read₂, .known found ?_ swapped⟩
        · rw [← apart.left v s s₁ read, empty']
        · rw [apart.right w s s₂ read₂, empty]

/-- The members of a record may be read in any order. -/
theorem Lawful.fromMembers_perm (lawful : r.Lawful defaults) {ms ns : List (Draft × Draft)}
    (perm : ms.Perm ns) {s t : σ} (read : fromMembers r.fields s ms = .ok t) :
    fromMembers r.fields s ns = .ok t := by
  induction perm generalizing s t with
  | nil => exact read
  | cons m _ ih =>
    obtain ⟨s', fills, read⟩ := fromMembers_cons_eq_ok_iff.1 read
    exact fromMembers_cons_eq_ok_iff.2 ⟨s', fills, ih read⟩
  | swap m n ms =>
    obtain ⟨s₁, first, read⟩ := fromMembers_cons_eq_ok_iff.1 read
    obtain ⟨s₂, second, read⟩ := fromMembers_cons_eq_ok_iff.1 read
    obtain ⟨s', first', second'⟩ := lawful.fills_swap first second
    exact fromMembers_cons_eq_ok_iff.2
      ⟨s', first', fromMembers_cons_eq_ok_iff.2 ⟨s₂, second', read⟩⟩
  | trans _ _ ih₁ ih₂ => exact ih₂ (ih₁ read)

/-! ### Changes -/

/-- Changes to the members of a record that should not matter. -/
inductive Amend (r : Record σ α) (defaults : List (String × Draft)) :
    List (Draft × Draft) → List (Draft × Draft) → Prop
  /-- A member is put in whose name is no field. -/
  | insert {before after : List (Draft × Draft)} {name : String} {v : Draft}
      (unknown : ∀ f ∈ r.fields, f.name ≠ name) (valid : v.isWhole = true) :
      Amend r defaults (before ++ after) (before ++ (.text (some name), v) :: after)
  /-- The members are put into another order. -/
  | reorder {ms ns : List (Draft × Draft)} (perm : ms.Perm ns) : Amend r defaults ms ns
  /-- A member is dropped whose value is the default of its field. -/
  | drop {before after : List (Draft × Draft)} {name : String} {v : Draft}
      (default : (name, v) ∈ defaults) :
      Amend r defaults (before ++ (.text (some name), v) :: after) (before ++ after)

theorem decode_insert {before after : List (Draft × Draft)} {name : String} {v : Draft} {a : α}
    (unknown : ∀ f ∈ r.fields, f.name ≠ name) (valid : v.isWhole = true)
    (accepted : r.decode (.object (before ++ after) true) = .ok a) :
    r.decode (.object (before ++ (.text (some name), v) :: after) true) = .ok a := by
  have missing : r.fields.find? (fun f => f.name == name) = none := by
    rw [List.find?_eq_none]
    intro f mem same
    exact unknown f mem (beq_iff_eq.1 same)
  obtain ⟨t, read, -, finish⟩ := decode_object_eq_ok_iff.1 accepted
  obtain ⟨s, first, second⟩ := fromMembers_append_eq_ok_iff.1 read
  have later := fromMembers_cons_eq_ok_iff.2 ⟨s, .other missing valid, second⟩
  exact decode_object_eq_ok_iff.2
    ⟨t, fromMembers_append_eq_ok_iff.2 ⟨s, first, later⟩, rfl, finish⟩

theorem Lawful.decode_drop (lawful : r.Lawful defaults) {before after : List (Draft × Draft)}
    {name : String} {v : Draft} {a : α} (default : (name, v) ∈ defaults)
    (accepted : r.decode (.object (before ++ (.text (some name), v) :: after) true) = .ok a) :
    r.decode (.object (before ++ after) true) = .ok a := by
  obtain ⟨t, read, -, finish⟩ := decode_object_eq_ok_iff.1 accepted
  obtain ⟨f, found, spared⟩ := lawful.spared _ default
  -- the member is moved to the end, where it can be cut off
  have last : (before ++ (.text (some name), v) :: after).Perm
      ((before ++ after) ++ [(.text (some name), v)]) :=
    List.perm_middle.trans (List.perm_append_singleton _ _).symm
  obtain ⟨s, others, member⟩ :=
    fromMembers_append_eq_ok_iff.1 (lawful.fromMembers_perm last read)
  obtain ⟨t', fills, nothing⟩ := fromMembers_cons_eq_ok_iff.1 member
  cases nothing
  refine decode_object_eq_ok_iff.2 ⟨s, others, rfl, ?_⟩
  cases fills with
  | other missing _ =>
    rw [found] at missing
    cases missing
  | known found' empty filled =>
    obtain rfl := Option.some.inj (found.symm.trans found')
    rw [← spared s t empty filled, finish]

/-- **A change that should not matter does not**: the record is read as before. -/
theorem Amend.decode_eq_ok (lawful : r.Lawful defaults) {ms ns : List (Draft × Draft)} {a : α}
    (change : r.Amend defaults ms ns) (accepted : r.decode (.object ms true) = .ok a) :
    r.decode (.object ns true) = .ok a := by
  cases change with
  | insert unknown valid => exact decode_insert unknown valid accepted
  | reorder perm =>
    obtain ⟨t, read, -, finish⟩ := decode_object_eq_ok_iff.1 accepted
    exact decode_object_eq_ok_iff.2 ⟨t, lawful.fromMembers_perm perm read, rfl, finish⟩
  | drop default => exact lawful.decode_drop default accepted

/-- The value of a member may be replaced by one that is read alike. -/
theorem decode_replace {before after : List (Draft × Draft)} {v w : Draft} {a : α}
    (found : r.fields.find? (fun f => f.name == name) = some (.of name defaulted get set dec))
    (alike : ∀ b, dec v = .ok b → dec w = .ok b)
    (accepted : r.decode (.object (before ++ (.text (some name), v) :: after) true) = .ok a) :
    r.decode (.object (before ++ (.text (some name), w) :: after) true) = .ok a := by
  obtain ⟨t, read, -, finish⟩ := decode_object_eq_ok_iff.1 accepted
  obtain ⟨s, first, later⟩ := fromMembers_append_eq_ok_iff.1 read
  obtain ⟨s', fills, second⟩ := fromMembers_cons_eq_ok_iff.1 later
  have fills' : Fills r.fields s (.text (some name), w) s' := by
    cases fills with
    | other missing _ =>
      rw [found] at missing
      cases missing
    | known found' empty filled =>
      obtain rfl := Option.some.inj (found.symm.trans found')
      obtain ⟨b, read, rfl⟩ := Field.read_of_eq_ok_iff.1 filled
      exact .known found empty (Field.read_of_eq_ok_iff.2 ⟨b, alike b read, rfl⟩)
  have later' := fromMembers_cons_eq_ok_iff.2 ⟨s', fills', second⟩
  exact decode_object_eq_ok_iff.2
    ⟨t, fromMembers_append_eq_ok_iff.2 ⟨s, first, later'⟩, rfl, finish⟩

end Record

/-! ## Values inside values -/

namespace Decoder

variable {β : Type} {dec : Decoder β} {d e : Draft}

theorem items_replace (alike : ∀ b, dec d = .ok b → dec e = .ok b) {before after : List Draft}
    {bs : List β} (accepted : items dec (before ++ d :: after) = .ok bs) :
    items dec (before ++ e :: after) = .ok bs := by
  induction before generalizing bs with
  | nil =>
    obtain ⟨b, rest, read, later, same⟩ := items_cons_eq_ok_iff.1 accepted
    exact items_cons_eq_ok_iff.2 ⟨b, rest, alike b read, later, same⟩
  | cons x before ih =>
    obtain ⟨b, rest, read, later, same⟩ := items_cons_eq_ok_iff.1 accepted
    exact items_cons_eq_ok_iff.2 ⟨b, rest, read, ih later, same⟩

/-- An item of an array may be replaced by one that is read alike. -/
theorem list_replace (alike : ∀ b, dec d = .ok b → dec e = .ok b) {before after : List Draft}
    {bs : List β} (accepted : list dec (.array (before ++ d :: after) true) = .ok bs) :
    list dec (.array (before ++ e :: after) true) = .ok bs :=
  list_eq_ok_iff.2 ⟨items_replace alike (list_eq_ok_iff.1 accepted).1, rfl⟩

theorem entries_replace (alike : ∀ b, dec d = .ok b → dec e = .ok b) {key : Draft}
    {before after : List (Draft × Draft)} {start result : Dict β}
    (accepted : entries dec start (before ++ (key, d) :: after) = .ok result) :
    entries dec start (before ++ (key, e) :: after) = .ok result := by
  induction before generalizing start with
  | nil =>
    obtain ⟨k, b, named, read, later⟩ := entries_cons_eq_ok_iff.1 accepted
    exact entries_cons_eq_ok_iff.2 ⟨k, b, named, alike b read, later⟩
  | cons m before ih =>
    obtain ⟨k, b, named, read, later⟩ := entries_cons_eq_ok_iff.1 accepted
    exact entries_cons_eq_ok_iff.2 ⟨k, b, named, read, ih later⟩

/-- The value of an entry may be replaced by one that is read alike. -/
theorem dict_replace (alike : ∀ b, dec d = .ok b → dec e = .ok b) {key : Draft}
    {before after : List (Draft × Draft)} {result : Dict β}
    (accepted : dict dec (.object (before ++ (key, d) :: after) true) = .ok result) :
    dict dec (.object (before ++ (key, e) :: after) true) = .ok result :=
  dict_eq_ok_iff.2 ⟨entries_replace alike (dict_eq_ok_iff.1 accepted).1, rfl⟩

end Decoder

end ChatGateway

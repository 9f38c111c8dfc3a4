import ChatGateway.Json.Record

/-!
# Typed readers, step by step

What it takes for a reader to accept a container: which of its parts are accepted, one after
another, and that the container is closed.  A reader stops at the first fault, so each law
says of an accepted container that its first part was accepted and then the rest.

## Main definitions

* `Decoder.items_cons_eq_ok_iff`, `Decoder.entries_cons_eq_ok_iff` — an item, an entry.
* `Fills` — what one member of a record does to its slots.
* `Record.fromMembers_cons_eq_ok_iff`, `Record.fromMembers_append_eq_ok_iff` — members.
* `Record.decode_object_eq_ok_iff` — a record that is written as an object.
-/

namespace ChatGateway

variable {σ α β : Type}

/-! ## Items and entries -/

namespace Decoder

variable {dec : Decoder β}

theorem items_cons_eq_ok_iff {d : Draft} {ds : List Draft} {bs : List β} :
    items dec (d :: ds) = .ok bs ↔
      ∃ b rest, dec d = .ok b ∧ items dec ds = .ok rest ∧ b :: rest = bs := by
  simp only [items]
  cases dec d <;> cases items dec ds <;> simp [Except.map]

theorem list_eq_ok_iff {ds : List Draft} {closed : Bool} {bs : List β} :
    list dec (.array ds closed) = .ok bs ↔ items dec ds = .ok bs ∧ closed = true := by
  simp only [list]
  cases items dec ds <;> cases closed <;> simp

theorem entries_cons_eq_ok_iff {key d : Draft} {ms : List (Draft × Draft)}
    {start result : Dict β} :
    entries dec start ((key, d) :: ms) = .ok result ↔
      ∃ k b, key = .text (some k) ∧ dec d = .ok b ∧
        entries dec (start.insert k b) ms = .ok result := by
  conv => lhs; unfold entries
  split
  · contradiction
  · rename_i k v rest same
    cases same
    cases dec d <;> simp
  · rename_i unread
    simp only [reduceCtorEq, false_iff, not_exists, not_and]
    rintro k b rfl
    exact absurd rfl (unread k d ms)

theorem dict_eq_ok_iff {ms : List (Draft × Draft)} {closed : Bool} {result : Dict β} :
    dict dec (.object ms closed) = .ok result ↔
      entries dec .empty ms = .ok result ∧ closed = true := by
  simp only [dict]
  cases entries dec .empty ms <;> cases closed <;> simp

end Decoder

/-! ## Fields -/

theorem Field.read_of_eq_ok_iff {name : String} {defaulted : Bool} {get : σ → Option β}
    {set : σ → β → σ} {dec : Decoder β} {v : Draft} {s t : σ} :
    (Field.of name defaulted get set dec).read v s = .ok t ↔
      ∃ b, dec v = .ok b ∧ set s b = t := by
  simp only [Field.of]
  cases dec v <;> simp [Except.map]

/-! ## Members -/

/-- What one member does to the slots: a known one fills an empty slot, any other is passed
over. -/
inductive Fills (fields : List (Field σ)) (s : σ) : Draft × Draft → σ → Prop
  | known {k : String} {v : Draft} {f : Field σ} {s' : σ}
      (found : fields.find? (fun f => f.name == k) = some f) (empty : f.filled s = false)
      (read : f.read v s = .ok s') : Fills fields s (.text (some k), v) s'
  | other {k : String} {v : Draft} (missing : fields.find? (fun f => f.name == k) = none)
      (whole : v.isWhole = true) : Fills fields s (.text (some k), v) s

namespace Record

variable {fields : List (Field σ)} {s t : σ}

theorem fromMembers_cons_eq_ok_iff {m : Draft × Draft} {ms : List (Draft × Draft)} :
    fromMembers fields s (m :: ms) = .ok t ↔
      ∃ s', Fills fields s m s' ∧ fromMembers fields s' ms = .ok t := by
  constructor
  · intro read
    unfold fromMembers at read
    split at read
    · contradiction
    · rename_i k v rest same
      cases same
      split at read
      · rename_i f found
        split at read
        case isTrue => cases read
        case isFalse empty =>
          split at read
          · cases read
          · rename_i s' filled
            exact ⟨s', .known found (Bool.eq_false_iff.2 empty) filled, read⟩
      · rename_i missing
        split at read
        case isTrue whole => exact ⟨s, .other missing whole, read⟩
        case isFalse => cases read
    · cases read
  · rintro ⟨s', fills, read⟩
    cases fills with
    | known found empty filled => simp [fromMembers, found, empty, filled, read]
    | other missing whole => simp [fromMembers, missing, whole, read]

theorem fromMembers_append_eq_ok_iff {xs ys : List (Draft × Draft)} :
    fromMembers fields s (xs ++ ys) = .ok t ↔
      ∃ s', fromMembers fields s xs = .ok s' ∧
        fromMembers fields s' ys = .ok t := by
  induction xs generalizing s with
  | nil => simp [fromMembers]
  | cons x xs ih =>
    simp only [List.cons_append, fromMembers_cons_eq_ok_iff, ih]
    constructor
    · rintro ⟨s₁, fills, s₂, first, second⟩
      exact ⟨s₂, ⟨s₁, fills, first⟩, second⟩
    · rintro ⟨s₂, ⟨s₁, fills, first⟩, second⟩
      exact ⟨s₁, fills, s₂, first, second⟩

theorem decode_object_eq_ok_iff {r : Record σ α} {ms : List (Draft × Draft)} {closed : Bool}
    {a : α} :
    r.decode (.object ms closed) = .ok a ↔
      ∃ s, fromMembers r.fields r.blank ms = .ok s ∧ closed = true ∧ r.finish s = .ok a := by
  simp only [decode]
  cases fromMembers r.fields r.blank ms <;> cases closed <;> simp

end Record

end ChatGateway

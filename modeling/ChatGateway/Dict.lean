/-!
# String-keyed dictionaries

A dictionary is a list of entries in strictly ascending key order.  The order
is part of the type, so a dictionary has one representation: two dictionaries
that answer every look-up alike are equal, and printing one needs no sorting.

## Main definitions

* `Dict.get?`, `Dict.insert`, `Dict.erase` — the look-up and the two writes.
* `Dict.extend` — every entry of a second dictionary written over the first.
* `Dict.ofList` — entries written one after another, so a later one wins.
-/

namespace ChatGateway

/-- A finite map from strings, kept in strictly ascending key order. -/
structure Dict (α : Type) where
  /-- The entries, in ascending key order. -/
  entries : List (String × α)
  /-- Keys ascend strictly, so no key occurs twice. -/
  ascending : entries.Pairwise fun a b => a.1 < b.1

namespace Dict

variable {α β : Type}

/-! ## Entry lists -/

/-- Write an entry into an ascending list, in place of one with the same key. -/
def insertEntry (k : String) (v : α) : List (String × α) → List (String × α)
  | [] => [(k, v)]
  | (k', v') :: rest =>
    if k < k' then (k, v) :: (k', v') :: rest
    else if k = k' then (k, v) :: rest
    else (k', v') :: insertEntry k v rest

/-- The value under a key in an entry list. -/
def findEntry (k : String) : List (String × α) → Option α
  | [] => none
  | (k', v) :: rest => if k' = k then some v else findEntry k rest

theorem mem_insertEntry {k : String} {v : α} {e : String × α} {l : List (String × α)}
    (h : e ∈ insertEntry k v l) : e = (k, v) ∨ e ∈ l := by
  induction l with
  | nil => simpa [insertEntry] using h
  | cons hd tl ih =>
    simp only [insertEntry] at h
    split at h
    · simpa using h
    · split at h
      · rcases List.mem_cons.1 h with h | h
        · exact .inl h
        · exact .inr (List.mem_cons_of_mem _ h)
      · rcases List.mem_cons.1 h with h | h
        · exact .inr (h ▸ List.mem_cons_self)
        · rcases ih h with h | h
          · exact .inl h
          · exact .inr (List.mem_cons_of_mem _ h)

theorem pairwise_insertEntry (k : String) (v : α) {l : List (String × α)}
    (h : l.Pairwise fun a b => a.1 < b.1) :
    (insertEntry k v l).Pairwise fun a b => a.1 < b.1 := by
  induction l with
  | nil => simp [insertEntry]
  | cons hd tl ih =>
    obtain ⟨hhd, htl⟩ := List.pairwise_cons.1 h
    simp only [insertEntry]
    split
    · rename_i hlt
      refine List.pairwise_cons.2 ⟨fun e he => ?_, h⟩
      rcases List.mem_cons.1 he with rfl | he
      · exact hlt
      · exact String.lt_trans hlt (hhd e he)
    · split
      · rename_i _ heq
        exact List.pairwise_cons.2 ⟨fun e he => heq ▸ hhd e he, htl⟩
      · rename_i hlt hne
        refine List.pairwise_cons.2 ⟨fun e he => ?_, ih htl⟩
        rcases mem_insertEntry he with rfl | he
        · exact Std.lt_of_le_of_ne (String.not_lt.1 hlt) (Ne.symm hne)
        · exact hhd e he

theorem findEntry_insertEntry_self (k : String) (v : α) (l : List (String × α)) :
    findEntry k (insertEntry k v l) = some v := by
  induction l with
  | nil => simp [insertEntry, findEntry]
  | cons hd tl ih =>
    simp only [insertEntry]
    split
    · simp [findEntry]
    · split
      · simp [findEntry]
      · rename_i hne
        simp [findEntry, Ne.symm hne, ih]

theorem findEntry_insertEntry_of_ne {k k' : String} (v : α) (h : k' ≠ k)
    (l : List (String × α)) : findEntry k' (insertEntry k v l) = findEntry k' l := by
  induction l with
  | nil => simp [insertEntry, findEntry, Ne.symm h]
  | cons hd tl ih =>
    simp only [insertEntry]
    split
    · simp [findEntry, Ne.symm h]
    · split
      · rename_i heq
        simp [findEntry, Ne.symm h, heq ▸ Ne.symm h]
      · simp [findEntry, ih]

theorem findEntry_eq_none_of_lt {k : String} {l : List (String × α)}
    (h : ∀ e ∈ l, k < e.1) : findEntry k l = none := by
  induction l with
  | nil => rfl
  | cons hd tl ih =>
    have hk : hd.1 ≠ k := fun heq => String.lt_irrefl k (heq ▸ h hd List.mem_cons_self)
    simp only [findEntry, hk, if_false]
    exact ih fun e he => h e (List.mem_cons_of_mem _ he)

/-! ## Dictionaries -/

/-- The dictionary without entries. -/
def empty : Dict α := ⟨[], List.Pairwise.nil⟩

instance : Inhabited (Dict α) := ⟨empty⟩

/-- The value under a key. -/
def get? (d : Dict α) (k : String) : Option α :=
  findEntry k d.entries

/-- Write a value under a key, replacing an earlier one. -/
def insert (d : Dict α) (k : String) (v : α) : Dict α :=
  ⟨insertEntry k v d.entries, pairwise_insertEntry k v d.ascending⟩

/-- Remove a key. -/
def erase (d : Dict α) (k : String) : Dict α :=
  ⟨d.entries.filter fun e => e.1 ≠ k, d.ascending.filter _⟩

/-- Whether a key has a value. -/
def contains (d : Dict α) (k : String) : Bool :=
  (d.get? k).isSome

/-- The number of keys. -/
def size (d : Dict α) : Nat :=
  d.entries.length

/-- Whether there is no key. -/
def isEmpty (d : Dict α) : Bool :=
  d.entries.isEmpty

/-- The keys, ascending. -/
def keys (d : Dict α) : List String :=
  d.entries.map (·.1)

/-- Write every entry of `other` over `d`. -/
def extend (d other : Dict α) : Dict α :=
  other.entries.foldl (fun acc e => acc.insert e.1 e.2) d

/-- Write entries one after another, so the last value of a key stays. -/
def ofList (l : List (String × α)) : Dict α :=
  l.foldl (fun acc e => acc.insert e.1 e.2) empty

/-- Apply a function to every value. -/
def map (f : α → β) (d : Dict α) : Dict β :=
  ⟨d.entries.map fun e => (e.1, f e.2), by
    rw [List.pairwise_map]
    exact d.ascending⟩

instance [DecidableEq α] : DecidableEq (Dict α) := fun a b =>
  decidable_of_iff (a.entries = b.entries)
    ⟨fun h => by cases a; cases b; cases h; rfl, fun h => h ▸ rfl⟩

@[simp] theorem get?_empty (k : String) : (empty : Dict α).get? k = none := rfl

@[simp] theorem get?_insert_self (d : Dict α) (k : String) (v : α) :
    (d.insert k v).get? k = some v :=
  findEntry_insertEntry_self k v d.entries

theorem get?_insert_of_ne (d : Dict α) {k k' : String} (v : α) (h : k' ≠ k) :
    (d.insert k v).get? k' = d.get? k' :=
  findEntry_insertEntry_of_ne v h d.entries

theorem get?_insert (d : Dict α) (k k' : String) (v : α) :
    (d.insert k v).get? k' = if k' = k then some v else d.get? k' := by
  by_cases h : k' = k
  · subst h; simp
  · simp [h, get?_insert_of_ne d v h]

theorem get?_erase (d : Dict α) (k k' : String) :
    (d.erase k).get? k' = if k' = k then none else d.get? k' := by
  simp only [get?, erase]
  induction d.entries with
  | nil => simp [findEntry]
  | cons hd tl ih =>
    by_cases hk : hd.1 = k
    · by_cases hk' : k' = k
      · simpa [List.filter_cons, hk, hk', findEntry] using ih
      · have : ¬ k = k' := Ne.symm hk'
        simpa [List.filter_cons, hk, hk', findEntry, this] using ih
    · by_cases hk' : k' = k
      · subst hk'
        simpa [List.filter_cons, hk, findEntry] using ih
      · by_cases hh : hd.1 = k'
        · simp [hk', findEntry, hh]
        · simpa [List.filter_cons, hk, hk', findEntry, hh] using ih

@[simp] theorem get?_map (f : α → β) (d : Dict α) (k : String) :
    (d.map f).get? k = (d.get? k).map f := by
  simp only [get?, map]
  induction d.entries with
  | nil => rfl
  | cons hd tl ih =>
    by_cases hk : hd.1 = k
    · simp [findEntry, hk]
    · simp [findEntry, hk, ih]

/-- Two dictionaries with the same look-ups are the same dictionary. -/
theorem ext_get? {a b : Dict α} (h : ∀ k, a.get? k = b.get? k) : a = b := by
  obtain ⟨la, ha⟩ := a
  obtain ⟨lb, hb⟩ := b
  suffices la = lb by subst this; rfl
  induction la generalizing lb with
  | nil =>
    cases lb with
    | nil => rfl
    | cons e tl =>
      have := h e.1
      simp [get?, findEntry] at this
  | cons e tl ih =>
    cases lb with
    | nil =>
      have := h e.1
      simp [get?, findEntry] at this
    | cons e' tl' =>
      obtain ⟨he, htl⟩ := List.pairwise_cons.1 ha
      obtain ⟨he', htl'⟩ := List.pairwise_cons.1 hb
      have hkey : e.1 = e'.1 := by
        refine Decidable.byContradiction fun hne => ?_
        rcases String.le_total e.1 e'.1 with hle | hle
        · have hlt : e.1 < e'.1 := Std.lt_of_le_of_ne hle hne
          have hn : findEntry e.1 (e' :: tl') = none := by
            refine findEntry_eq_none_of_lt fun x hx => ?_
            rcases List.mem_cons.1 hx with rfl | hx
            · exact hlt
            · exact String.lt_trans hlt (he' x hx)
          have := h e.1
          simp only [get?, hn] at this
          simp [findEntry] at this
        · have hlt : e'.1 < e.1 := Std.lt_of_le_of_ne hle (Ne.symm hne)
          have hn : findEntry e'.1 (e :: tl) = none := by
            refine findEntry_eq_none_of_lt fun x hx => ?_
            rcases List.mem_cons.1 hx with rfl | hx
            · exact hlt
            · exact String.lt_trans hlt (he x hx)
          have := h e'.1
          simp only [get?, hn] at this
          simp [findEntry] at this
      have hval : e.2 = e'.2 := by
        have := h e.1
        simpa [get?, findEntry, hkey] using this
      have hrest : tl = tl' := by
        refine ih htl tl' htl' fun k => ?_
        by_cases hk : k = e.1
        · subst hk
          simp only [get?]
          rw [findEntry_eq_none_of_lt he, findEntry_eq_none_of_lt (hkey ▸ he')]
        · have := h k
          simpa [get?, findEntry, Ne.symm hk, hkey ▸ Ne.symm hk] using this
      rw [hrest, Prod.ext hkey hval]

/-! ## Listings -/

/-- What is found in a list in which no key occurs twice. -/
theorem findEntry_eq_some_iff {l : List (String × α)} (distinct : l.Pairwise fun a b => a.1 ≠ b.1)
    {k : String} {v : α} : findEntry k l = some v ↔ (k, v) ∈ l := by
  induction l with
  | nil => simp [findEntry]
  | cons hd tl ih =>
    obtain ⟨hhd, htl⟩ := List.pairwise_cons.1 distinct
    by_cases hk : hd.1 = k
    · have absent : (k, v) ∉ tl := fun h => hhd _ h hk
      simp only [findEntry, hk, if_true, Option.some.injEq, List.mem_cons, absent, or_false]
      exact ⟨fun h => Prod.ext hk.symm h.symm, fun h => (congrArg Prod.snd h).symm⟩
    · have other : (k, v) ≠ hd := fun h => hk (congrArg Prod.fst h).symm
      simp only [findEntry, hk, if_false, ih htl, List.mem_cons, other, false_or]

theorem distinct_entries (d : Dict α) : d.entries.Pairwise fun a b => a.1 ≠ b.1 :=
  d.ascending.imp fun h => String.ne_of_lt h

theorem get?_eq_some_iff (d : Dict α) {k : String} {v : α} :
    d.get? k = some v ↔ (k, v) ∈ d.entries :=
  findEntry_eq_some_iff d.distinct_entries

/-- Entries without a common key are all found after they are written. -/
theorem get?_foldl_insert {l : List (String × α)} (distinct : l.Pairwise fun a b => a.1 ≠ b.1)
    (d : Dict α) (k : String) :
    (l.foldl (fun acc e => acc.insert e.1 e.2) d).get? k = (findEntry k l).or (d.get? k) := by
  induction l generalizing d with
  | nil => simp [findEntry]
  | cons hd tl ih =>
    obtain ⟨hhd, htl⟩ := List.pairwise_cons.1 distinct
    rw [List.foldl_cons, ih htl, get?_insert]
    by_cases hk : hd.1 = k
    · have absent : findEntry k tl = none := by
        rw [Option.eq_none_iff_forall_ne_some]
        exact fun v found => hhd _ ((findEntry_eq_some_iff htl).1 found) hk
      simp [findEntry, hk, absent]
    · simp [findEntry, hk, Ne.symm hk]

/-- A dictionary may be listed in any order. -/
theorem ofList_of_perm {d : Dict α} {l : List (String × α)} (listed : l.Perm d.entries) :
    ofList l = d := by
  have distinct : l.Pairwise fun a b => a.1 ≠ b.1 :=
    listed.symm.pairwise d.distinct_entries fun h => Ne.symm h
  refine ext_get? fun k => Option.ext fun v => ?_
  rw [ofList, get?_foldl_insert distinct, get?_empty, Option.or_none,
    findEntry_eq_some_iff distinct, get?_eq_some_iff, listed.mem_iff]

/-! ## Extensions -/

theorem get?_extend (d other : Dict α) (k : String) :
    (d.extend other).get? k = (other.get? k).or (d.get? k) :=
  get?_foldl_insert other.distinct_entries d k

@[simp] theorem extend_empty (d : Dict α) : d.extend empty = d := rfl

@[simp] theorem empty_extend (d : Dict α) : empty.extend d = d :=
  ext_get? fun k => by rw [get?_extend, get?_empty, Option.or_none]

theorem extend_assoc (a b c : Dict α) : (a.extend b).extend c = a.extend (b.extend c) :=
  ext_get? fun k => by simp only [get?_extend, Option.or_assoc]

/-- An entry may be written before or after an extension that it is part of. -/
theorem extend_insert (d other : Dict α) (k : String) (v : α) :
    d.extend (other.insert k v) = (d.extend other).insert k v := by
  refine ext_get? fun k' => ?_
  by_cases own : k' = k
  · subst own
    simp [get?_extend]
  · simp [get?_extend, get?_insert, own]

end Dict

end ChatGateway

/-!
Finite maps from texts, kept in insertion order. No key occurs twice. Main statements: one look-up
equation per operation (`find?_insert`, `find?_erase`, `find?_retain`).
-/

namespace Turnstile

/-- A finite map whose keys are texts; entries stand in the order of their first insertion. -/
structure Table (α : Type) where
  entries : List (String × α)
  nodup : (entries.map Prod.fst).Nodup

namespace Table

variable {α : Type}

/-! ## Algorithm -/

/-- The value found first under a key in a list of pairs. -/
def lookupIn (key : String) : List (String × α) → Option α
  | [] => none
  | (k, v) :: rest => if k = key then some v else lookupIn key rest

/-- Replaces the value under a key, or appends the pair. -/
def insertIn (key : String) (value : α) : List (String × α) → List (String × α)
  | [] => [(key, value)]
  | (k, v) :: rest => if k = key then (key, value) :: rest else (k, v) :: insertIn key value rest

theorem mem_keys_insertIn (key : String) (value : α) (entries : List (String × α)) (k : String) :
    k ∈ (insertIn key value entries).map Prod.fst ↔ k = key ∨ k ∈ entries.map Prod.fst := by
  induction entries with
  | nil => simp [insertIn]
  | cons pair rest ih =>
    obtain ⟨k', v⟩ := pair
    by_cases h : k' = key
    · subst h
      simp [insertIn]
    · simp only [insertIn, if_neg h, List.map_cons, List.mem_cons, ih]
      constructor
      · rintro (h | h | h) <;> simp [h]
      · rintro (h | h | h) <;> simp [h]

theorem nodup_insertIn (key : String) (value : α) (entries : List (String × α))
    (h : (entries.map Prod.fst).Nodup) : ((insertIn key value entries).map Prod.fst).Nodup := by
  induction entries with
  | nil => simp [insertIn]
  | cons pair rest ih =>
    obtain ⟨k', v⟩ := pair
    simp only [List.map_cons, List.nodup_cons] at h
    by_cases hk : k' = key
    · subst hk
      simpa [insertIn] using h
    · simp only [insertIn, if_neg hk, List.map_cons, List.nodup_cons]
      refine ⟨fun mem => ?_, ih h.2⟩
      rcases (mem_keys_insertIn key value rest k').1 mem with e | e
      · exact hk e
      · exact h.1 e

theorem nodup_filter (keep : String × α → Bool) (entries : List (String × α))
    (h : (entries.map Prod.fst).Nodup) : ((entries.filter keep).map Prod.fst).Nodup :=
  h.sublist (List.filter_sublist.map _)

/-- The map without entries. -/
def empty : Table α := ⟨[], by simp⟩

instance : EmptyCollection (Table α) := ⟨empty⟩

instance : Inhabited (Table α) := ⟨empty⟩

/-- The value under a key. -/
def find? (t : Table α) (key : String) : Option α := lookupIn key t.entries

/-- Puts a value under a key; a value that stood there is replaced in its place. -/
def insert (t : Table α) (key : String) (value : α) : Table α :=
  ⟨insertIn key value t.entries, nodup_insertIn key value t.entries t.nodup⟩

/-- Removes a key and its value. -/
def erase (t : Table α) (key : String) : Table α :=
  ⟨t.entries.filter (·.1 ≠ key), nodup_filter _ _ t.nodup⟩

/-- Keeps the entries whose value passes a test. -/
def retain (t : Table α) (keep : α → Bool) : Table α :=
  ⟨t.entries.filter (keep ·.2), nodup_filter _ _ t.nodup⟩

/-- The number of entries. -/
def size (t : Table α) : Nat := t.entries.length

/-- Whether there is no entry. -/
def isEmpty (t : Table α) : Bool := t.entries.isEmpty

/-- The map of a list of pairs; of several values under one key the last is kept. -/
def ofList (pairs : List (String × α)) : Table α :=
  pairs.foldl (fun t pair => t.insert pair.1 pair.2) empty

/-! ## Lemmas -/

@[simp]
theorem find?_empty (key : String) : (empty : Table α).find? key = none := rfl

theorem lookupIn_insertIn (key key' : String) (value : α) (entries : List (String × α)) :
    lookupIn key' (insertIn key value entries) =
      if key' = key then some value else lookupIn key' entries := by
  induction entries with
  | nil => by_cases h : key = key' <;> simp [insertIn, lookupIn, h, eq_comm]
  | cons pair rest ih =>
    obtain ⟨k, v⟩ := pair
    by_cases h : k = key
    · subst h
      by_cases h' : k = key'
      · simp [insertIn, lookupIn, h']
      · simp [insertIn, lookupIn, h', Ne.symm h']
    · by_cases h' : k = key'
      · subst h'
        simp [insertIn, lookupIn, h]
      · simp [insertIn, lookupIn, h, h', ih]

theorem find?_insert (t : Table α) (key key' : String) (value : α) :
    (t.insert key value).find? key' = if key' = key then some value else t.find? key' :=
  lookupIn_insertIn key key' value t.entries

@[simp]
theorem find?_insert_self (t : Table α) (key : String) (value : α) :
    (t.insert key value).find? key = some value := by
  simp [find?_insert]

theorem lookupIn_filter_ne (key key' : String) (entries : List (String × α)) :
    lookupIn key' (entries.filter (·.1 ≠ key)) =
      if key' = key then none else lookupIn key' entries := by
  induction entries with
  | nil => simp [lookupIn]
  | cons pair rest ih =>
    obtain ⟨k, v⟩ := pair
    by_cases h : k = key
    · subst h
      by_cases h' : key' = k
      · subst h'
        simpa [lookupIn] using ih
      · have h'' : k ≠ key' := fun e => h' e.symm
        simpa [lookupIn, h', h''] using ih
    · by_cases h' : k = key'
      · subst h'
        simp [lookupIn, h]
      · simpa [lookupIn, h, h'] using ih

theorem find?_erase (t : Table α) (key key' : String) :
    (t.erase key).find? key' = if key' = key then none else t.find? key' :=
  lookupIn_filter_ne key key' t.entries

@[simp]
theorem find?_erase_self (t : Table α) (key : String) : (t.erase key).find? key = none := by
  simp [find?_erase]

theorem lookupIn_eq_none_of_not_mem {key : String} {entries : List (String × α)}
    (h : key ∉ entries.map Prod.fst) : lookupIn key entries = none := by
  induction entries with
  | nil => rfl
  | cons pair rest ih =>
    obtain ⟨k, v⟩ := pair
    simp only [List.map_cons, List.mem_cons, not_or] at h
    simp [lookupIn, Ne.symm h.1, ih h.2]

theorem lookupIn_filter (keep : α → Bool) (key : String) (entries : List (String × α))
    (nodup : (entries.map Prod.fst).Nodup) :
    lookupIn key (entries.filter (keep ·.2)) = (lookupIn key entries).filter keep := by
  induction entries with
  | nil => rfl
  | cons pair rest ih =>
    obtain ⟨k, v⟩ := pair
    simp only [List.map_cons, List.nodup_cons] at nodup
    by_cases h : k = key
    · subst h
      have absent := lookupIn_eq_none_of_not_mem nodup.1
      cases hv : keep v with
      | true => simp [lookupIn, Option.filter, hv]
      | false => simpa [lookupIn, Option.filter, hv, absent] using ih nodup.2
    · cases hv : keep v with
      | true => simpa [lookupIn, hv, h] using ih nodup.2
      | false => simpa [lookupIn, hv, h] using ih nodup.2

theorem find?_retain (t : Table α) (keep : α → Bool) (key : String) :
    (t.retain keep).find? key = (t.find? key).filter keep :=
  lookupIn_filter keep key t.entries t.nodup

theorem mem_of_lookupIn {key : String} {value : α} {entries : List (String × α)}
    (h : lookupIn key entries = some value) : (key, value) ∈ entries := by
  induction entries with
  | nil => simp [lookupIn] at h
  | cons pair rest ih =>
    obtain ⟨k, v⟩ := pair
    by_cases hk : k = key
    · subst hk
      simp_all [lookupIn]
    · simp only [lookupIn, if_neg hk] at h
      exact List.mem_cons_of_mem _ (ih h)

theorem lookupIn_of_mem {key : String} {value : α} {entries : List (String × α)}
    (nodup : (entries.map Prod.fst).Nodup) (h : (key, value) ∈ entries) :
    lookupIn key entries = some value := by
  induction entries with
  | nil => simp at h
  | cons pair rest ih =>
    obtain ⟨k, v⟩ := pair
    simp only [List.map_cons, List.nodup_cons] at nodup
    rcases List.mem_cons.1 h with e | e
    · cases e
      simp [lookupIn]
    · have hk : k ≠ key := fun hk => nodup.1 (hk ▸ List.mem_map_of_mem e)
      simp [lookupIn, hk, ih nodup.2 e]

/-- The entries of a map are the pairs that look-up finds. -/
theorem mem_entries_iff (t : Table α) (key : String) (value : α) :
    (key, value) ∈ t.entries ↔ t.find? key = some value :=
  ⟨lookupIn_of_mem t.nodup, mem_of_lookupIn⟩

/-- Pairs of different keys, put in one after the other, are found in front of what was there. -/
theorem find?_insert_all (t : Table α) {pairs : List (String × α)}
    (nodup : (pairs.map Prod.fst).Nodup) (key : String) :
    (pairs.foldl (fun t pair => t.insert pair.1 pair.2) t).find? key =
      (lookupIn key pairs).or (t.find? key) := by
  induction pairs generalizing t with
  | nil => rfl
  | cons pair rest ih =>
    obtain ⟨k, v⟩ := pair
    simp only [List.map_cons, List.nodup_cons] at nodup
    rw [List.foldl_cons, ih _ nodup.2, find?_insert, lookupIn]
    by_cases h : k = key
    · subst h
      simp [lookupIn_eq_none_of_not_mem nodup.1]
    · simp [h, Ne.symm h]

/-- The map of the entries of a map holds what that map holds. -/
theorem find?_ofList_entries (t : Table α) (key : String) :
    (ofList t.entries).find? key = t.find? key := by
  rw [ofList, find?_insert_all empty t.nodup, find?_empty, Option.or_none, find?]

end Table

end Turnstile

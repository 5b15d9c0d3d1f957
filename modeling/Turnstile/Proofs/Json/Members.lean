import Turnstile.Json.Basic

/-!
The members of objects that are built from lists. Main statements: an object has the members that it
is built from (`get?_ofMembers`) and no others (`exists_ofMembers`), so what holds of all their
values holds of its own (`canonical_ofMembers`, `noDouble_ofMembers`, `depth_ofMembers_le`); and to
leave out a member of it is to leave it out of the list (`without_ofMembers`).
-/

namespace Turnstile.Json

/-! ## Members by name -/

theorem findMember_putMember (name name' : String) (value : Json) (members : List (String × Json)) :
    findMember name' (putMember name value members) =
      if name = name' then some value else findMember name' members := by
  induction members with
  | nil => rfl
  | cons m rest ih =>
    obtain ⟨n, v⟩ := m
    simp only [putMember]
    split
    · rfl
    · split
      · rename_i same
        subst same
        simp only [findMember]
        split <;> rfl
      · rename_i other
        simp only [findMember, ih]
        by_cases here : n = name'
        · rw [if_pos here, if_neg (fun e => other (e.trans here.symm))]
          simp [here]
        · simp [here]

theorem findMember_foldl_of_notMem {name : String} {members : List (String × Json)}
    (absent : name ∉ members.map Prod.fst) (sorted : List (String × Json)) :
    findMember name (members.foldl (fun sorted m => putMember m.1 m.2 sorted) sorted) =
      findMember name sorted := by
  induction members generalizing sorted with
  | nil => rfl
  | cons m rest ih =>
    simp only [List.map_cons, List.mem_cons, not_or] at absent
    rw [List.foldl_cons, ih absent.2, findMember_putMember, if_neg (Ne.symm absent.1)]

/-- A value whose members have different names has all of them. -/
theorem get?_ofMembers {members : List (String × Json)} (nodup : (members.map Prod.fst).Nodup)
    {m : String × Json} (mem : m ∈ members) : (ofMembers members).get? m.1 = some m.2 := by
  show findMember m.1 (members.foldl (fun sorted m => putMember m.1 m.2 sorted) []) = some m.2
  generalize ([] : List (String × Json)) = sorted
  induction members generalizing sorted with
  | nil => cases mem
  | cons first rest ih =>
    simp only [List.map_cons, List.nodup_cons] at nodup
    rw [List.foldl_cons]
    rcases List.mem_cons.1 mem with rfl | mem
    · rw [findMember_foldl_of_notMem nodup.1, findMember_putMember, if_pos rfl]
    · exact ih nodup.2 mem _

theorem mem_of_findMember {name : String} {j : Json} {members : List (String × Json)}
    (h : findMember name members = some j) : (name, j) ∈ members := by
  induction members with
  | nil => cases h
  | cons m rest ih =>
    obtain ⟨n, v⟩ := m
    unfold findMember at h
    split at h
    · rename_i same
      cases h
      rw [same]
      exact List.mem_cons_self
    · exact List.mem_cons_of_mem _ (ih h)

/-! ## Members in order -/

/-- A built object has members of the list only, in the order of their names, and all of them if
their names are different. -/
theorem exists_ofMembers (members : List (String × Json)) :
    ∃ sorted, ofMembers members = .object sorted ∧ sorted.Pairwise (fun a b => a.1 < b.1) ∧
      (∀ m ∈ sorted, m ∈ members) ∧
      ((members.map Prod.fst).Nodup → ∀ m ∈ members, m ∈ sorted) := by
  obtain ⟨sorted, built, pairwise⟩ := pairwise_ofMembers members
  refine ⟨sorted, built, pairwise, ?_, ?_⟩
  · have only : ∀ (rest start : List (String × Json)) (m : String × Json),
        m ∈ rest.foldl (fun sorted m => putMember m.1 m.2 sorted) start →
        m ∈ rest ∨ m ∈ start := by
      intro rest
      induction rest with
      | nil => exact fun start m h => .inr h
      | cons first rest ih =>
        intro start m h
        rcases ih _ m h with later | put
        · exact .inl (List.mem_cons_of_mem _ later)
        · rcases mem_putMember put with rfl | kept
          · exact .inl List.mem_cons_self
          · exact .inr kept
    intro m h
    cases built
    rcases only members [] m h with mem | none
    · exact mem
    · cases none
  · intro nodup m mem
    have found := get?_ofMembers nodup mem
    rw [built] at found
    exact mem_of_findMember found

/-! ## Values of members -/

theorem canonicalMembers_iff {members : List (String × Json)} :
    CanonicalMembers members ↔ ∀ m ∈ members, m.2.Canonical := by
  induction members with
  | nil => exact iff_of_true .nil (by simp)
  | cons m rest ih =>
    rw [List.forall_mem_cons, ← ih]
    constructor
    · intro h
      cases h with
      | cons h hs => exact ⟨h, hs⟩
    · intro h
      exact .cons h.1 h.2

theorem noDoubleMembers_iff {members : List (String × Json)} :
    noDoubleMembers members = true ↔ ∀ m ∈ members, m.2.noDouble = true := by
  induction members with
  | nil => simp [noDoubleMembers]
  | cons m rest ih => rw [noDoubleMembers, Bool.and_eq_true, ih, List.forall_mem_cons]

theorem depthMembers_le_iff {members : List (String × Json)} {most : Nat} :
    depthMembers members ≤ most ↔ ∀ m ∈ members, m.2.depth ≤ most := by
  induction members with
  | nil => simp [depthMembers]
  | cons m rest ih => rw [depthMembers, Nat.max_le, ih, List.forall_mem_cons]

/-- The object of canonical members is canonical. -/
theorem canonical_ofMembers {members : List (String × Json)} (h : CanonicalMembers members) :
    Canonical (ofMembers members) := by
  obtain ⟨sorted, built, pairwise, only, -⟩ := exists_ofMembers members
  rw [built]
  refine .object pairwise (canonicalMembers_iff.2 ?_)
  exact fun m mem => canonicalMembers_iff.1 h m (only m mem)

/-- No floating-point number gets into it. -/
theorem noDouble_ofMembers {members : List (String × Json)} (h : noDoubleMembers members = true) :
    (ofMembers members).noDouble = true := by
  obtain ⟨sorted, built, -, only, -⟩ := exists_ofMembers members
  rw [built]
  exact noDoubleMembers_iff.2 fun m mem => noDoubleMembers_iff.1 h m (only m mem)

/-- It is nested once more than its members, at most. -/
theorem depth_ofMembers_le (members : List (String × Json)) :
    (ofMembers members).depth ≤ depthMembers members + 1 := by
  obtain ⟨sorted, built, -, only, -⟩ := exists_ofMembers members
  have all := depthMembers_le_iff.1 (Nat.le_refl (depthMembers members))
  rw [built, depth]
  exact Nat.succ_le_succ (depthMembers_le_iff.2 fun m mem => all m (only m mem))

/-! ## Objects without a member -/

/-- The value without the members of a name. -/
def without (name : String) : Json → Json
  | .object members => .object (members.filter (·.1 ≠ name))
  | j => j

theorem putMember_of_first {name : String} {value : Json} {members : List (String × Json)}
    (first : ∀ m ∈ members, name < m.1) :
    putMember name value members = (name, value) :: members := by
  cases members with
  | nil => rfl
  | cons m rest => exact if_pos (first m List.mem_cons_self)

/-- A member that is left out need not be put in, and any other one is put at its place among those
that are left. -/
theorem filter_putMember (name name' : String) (value : Json) {members : List (String × Json)}
    (sorted : members.Pairwise fun a b => a.1 < b.1) :
    (putMember name value members).filter (·.1 ≠ name') =
      if name = name' then members.filter (·.1 ≠ name')
      else putMember name value (members.filter (·.1 ≠ name')) := by
  fun_induction putMember name value members with
  | case1 =>
    by_cases left : name = name'
    · simp [left]
    · simp [left, putMember]
  | case2 n v rest before =>
    by_cases left : name = name'
    · simp [left]
    · -- every name that is left stands behind the new one
      have first : ∀ m ∈ ((n, v) :: rest).filter (·.1 ≠ name'), name < m.1 := by
        intro m mem
        rcases List.mem_cons.1 (List.mem_filter.1 mem).1 with rfl | later
        · exact before
        · exact String.lt_trans before ((List.pairwise_cons.1 sorted).1 m later)
      rw [if_neg left, putMember_of_first first, List.filter_cons_of_pos (by simp [left])]
  | case3 v rest _ =>
    by_cases left : name = name'
    · simp [left]
    · simp [left, putMember]
  | case4 n v rest notBefore different ih =>
    have kept := ih (List.pairwise_cons.1 sorted).2
    by_cases here : n = name'
    · have left : name ≠ name' := fun same => different (same.trans here.symm)
      rw [if_neg left] at kept ⊢
      simpa [here] using kept
    · rw [List.filter_cons_of_pos (by simp [here]), List.filter_cons_of_pos (by simp [here]), kept]
      split
      · rfl
      · rw [putMember, if_neg notBefore, if_neg different]

/-- To leave out the members of a name is to leave them out of the list. -/
theorem without_ofMembers (name : String) (members : List (String × Json)) :
    (ofMembers members).without name = ofMembers (members.filter (·.1 ≠ name)) := by
  have step : ∀ sorted : List (String × Json), sorted.Pairwise (fun a b => a.1 < b.1) →
      (members.foldl (fun sorted m => putMember m.1 m.2 sorted) sorted).filter (·.1 ≠ name) =
        (members.filter (·.1 ≠ name)).foldl (fun sorted m => putMember m.1 m.2 sorted)
          (sorted.filter (·.1 ≠ name)) := by
    induction members with
    | nil => exact fun _ _ => rfl
    | cons m rest ih =>
      intro sorted pairwise
      rw [List.foldl_cons, ih _ (pairwise_putMember pairwise), filter_putMember _ _ _ pairwise]
      by_cases left : m.1 = name
      · rw [if_pos left, List.filter_cons_of_neg (by simp [left])]
      · rw [if_neg left, List.filter_cons_of_pos (by simp [left]), List.foldl_cons]
  rw [ofMembers, without, step [] .nil]
  rfl

end Turnstile.Json
